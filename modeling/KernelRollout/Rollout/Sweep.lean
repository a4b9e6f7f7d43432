import KernelRollout.Rollout.Pass

namespace KernelRollout.Sweep

variable {σ : Type}

def unset (key : String) : Node.LabelChanges := Dict.empty.insert key none

-- Whether any of the nodes changed. A node whose labels cannot be changed is passed over, and keeps
-- the label.
def nodes (s : Setup σ) (key : String) : List Node → Pass σ Bool
  | [] => pure false
  | n :: ns => do
    let result ← Pass.attempt s (.patchNodeLabels n (unset key))
    let rest ← nodes s key ns
    pure (result.isOk || rest)

-- Takes a label from all nodes that carry it, but for those that keep it.
def label (s : Setup σ) (key : String) (keep : Node → Bool) : Pass σ Bool := do
  let carrying ← Pass.call s (.listNodes (.hasKey key))
  nodes s key (carrying.filter (!keep ·))

def marker (s : Setup σ) (t : Target) (m : Marker) (keep : Node → Bool) : Pass σ Bool :=
  label s (t.key m) keep

-- Takes all markers of a resource from all nodes, in the reverse of the order in which they come.
def allMarkers (s : Setup σ) (id : Identity) : Pass σ Unit := do
  let _ ← label s (Marker.ready.key id) fun _ => false
  let _ ← label s (Marker.sfc.key id) fun _ => false
  let _ ← label s (Marker.loader.key id) fun _ => false

end KernelRollout.Sweep
