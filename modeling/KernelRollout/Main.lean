import KernelRollout.Json.Yaml
import KernelRollout.Resource.Definition

-- Prints the definition of Onload resources, to be installed in a cluster.
def main : IO Unit :=
  IO.print KernelRollout.Onload.definition.toJson.yaml
