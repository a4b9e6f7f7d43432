import KernelRollout.Cluster.Edit

namespace KernelRollout

-- `left` calls of the method, this one included, until the disturbance happens.
structure Disturbance where
  method : Method
  left   : Nat
  edits  : List Edit
  error  : Option ClusterError

-- Just before the n-th call of a method others edit the cluster, the call may be lost, and lists
-- may come in another order.
structure Disturbed where
  cluster      : Cluster := {}
  disturbances : List Disturbance := []
  reversed     : Bool := false

namespace Disturbed

def arm (d : Disturbed) (x : Disturbance) : Disturbed :=
  { d with disturbances := d.disturbances ++ [x] }

-- The disturbances that happen at a call, and those that are left.
def due (m : Method) (xs : List Disturbance) : List Disturbance × List Disturbance :=
  let counted := xs.map fun x => if x.method = m then { x with left := x.left - 1 } else x
  (counted.filter fun x => x.method = m && x.left = 0,
    counted.filter fun x => !(x.method = m && x.left = 0))

def inOrder (reversed : Bool) : {α : Type} → Call α → α → α
  | _, .listNodes _, ns => if reversed then ns.reverse else ns
  | _, .listPods _, ps  => if reversed then ps.reverse else ps
  | _, _, a             => a

def answer {α : Type} (call : Call α) (d : Disturbed) : Except ClusterError α × Disturbed :=
  let (now, later) := due call.method d.disturbances
  let cluster := Edit.applyAll (now.flatMap (·.edits)) d.cluster
  let d := { d with cluster, disturbances := later }
  match now.findSome? (·.error) with
  | some e => (.error e, d)
  | none =>
    let (result, cluster) := d.cluster.answer call
    (result.map (inOrder d.reversed call), { d with cluster })

def client : Client Disturbed := ⟨answer⟩

end Disturbed

end KernelRollout
