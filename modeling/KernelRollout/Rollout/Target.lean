import KernelRollout.Operator.Error
import KernelRollout.Query
import KernelRollout.Resource.Node
import KernelRollout.Rollout.ModuleKind
import KernelRollout.Text.Blank

namespace KernelRollout

-- The resource that a pass works on, with its identity.
structure Target where
  onload : Onload
  id     : Identity
deriving DecidableEq

namespace Target

def of (o : Onload) : Except OperatorError Target :=
  match o.metadata.name, o.metadata.ns with
  | none, _            => .error (.missingField .name)
  | some name, none    => .error (.missingField (.ns name))
  | some name, some ns => .ok ⟨o, ⟨ns, name⟩⟩

-- The version that all selected nodes are brought to.
def version (t : Target) : String := t.onload.version

def spec (t : Target) : OnloadSpec := t.onload.spec

def selector (t : Target) : LabelQuery := .ofLabels t.spec.selector

def selects (t : Target) (n : Node) : Bool := t.selector.selects n.metadata.labels

def key (t : Target) (m : Marker) : String := m.key t.id

def marker? (t : Target) (m : Marker) (n : Node) : Option String := n.label? (t.key m)

def sfcWanted (t : Target) : Bool := ModuleKind.sfc.wanted t.spec

-- The identity of the module resource of a kind.
def moduleId (t : Target) (kind : ModuleKind) : Identity := ⟨t.id.ns, kind.resourceName t.id.name⟩

end Target

namespace Onload

-- A resource that can be rolled out has a version, and uses one way into the pods.
def validate (o : Onload) : Except OperatorError Unit :=
  if Text.allBlank o.version then .error (.invalidConfig .blankVersion)
  else if o.spec.devicePlugin.setPreload = some true ∧ o.spec.devicePlugin.mountOnload = some true then
    .error (.invalidConfig .preloadAndMount)
  else .ok ()

end Onload

end KernelRollout
