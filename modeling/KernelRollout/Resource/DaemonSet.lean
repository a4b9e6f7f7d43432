import KernelRollout.Resource.Pod

namespace KernelRollout

structure PodTemplate where
  metadata : Option Metadata := none
  spec     : Option PodSpec := none
deriving DecidableEq, Inhabited

structure DaemonSetSpec where
  matchLabels    : Option Labels := none
  template       : PodTemplate := {}
  updateStrategy : Option (Option String) := none
deriving DecidableEq, Inhabited

-- One pod from a template on every node that the template admits.
structure DaemonSet where
  metadata : Metadata := {}
  spec     : Option DaemonSetSpec := none
deriving DecidableEq, Inhabited

instance : Resource DaemonSet where
  apiVersion   := "apps/v1"
  kind         := "DaemonSet"
  metadata     := DaemonSet.metadata
  withMetadata := fun d m => { d with metadata := m }

namespace Json

open Fields (always whenSet whenFilled)

def podTemplate? : Read PodTemplate := fun v => do
  let f ← object? v
  some { metadata := ← f.optional "metadata" metadata?, spec := ← f.optional "spec" podSpec? }

def podTemplate (t : PodTemplate) : Json :=
  obj <| whenSet "metadata" metadata t.metadata ++ whenSet "spec" podSpec t.spec

def labelSelector? : Read (Option Labels) := fun v => do
  (← object? v).optional "matchLabels" labels?

def updateStrategy? : Read (Option String) := fun v => do
  (← object? v).optional "type" string?

def daemonSetSpec? : Read DaemonSetSpec := fun v => do
  let f ← object? v
  some {
    matchLabels    := ← f.lenient "selector" none labelSelector?
    template       := ← f.lenient "template" {} podTemplate?
    updateStrategy := ← f.optional "updateStrategy" updateStrategy?
  }

def daemonSetSpec (s : DaemonSetSpec) : Json :=
  obj <|
    always "selector" (obj (whenSet "matchLabels" labels s.matchLabels)) ++
    always "template" (podTemplate s.template) ++
    whenSet "updateStrategy" (fun t => obj (whenSet "type" str t)) s.updateStrategy

def daemonSet? : Read DaemonSet := fun v => do
  let f ← ofKind? DaemonSet v
  some {
    metadata := ← f.lenient "metadata" {} metadata?
    spec     := ← f.optional "spec" daemonSetSpec?
  }

def daemonSet (d : DaemonSet) : Json :=
  obj <|
    typeFields DaemonSet ++
    always "metadata" (metadata d.metadata) ++
    whenSet "spec" daemonSetSpec d.spec

end Json

end KernelRollout
