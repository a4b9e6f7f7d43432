import KernelRollout.Rollout.Marking
import KernelRollout.Rollout.Operand
import KernelRollout.Rollout.Quantity

namespace KernelRollout.Drain

variable {σ : Type}

def isStale (t : Target) (n : Node) : Bool := t.marker? .loader n ≠ some t.version

-- The first of the nodes by name. Of nodes of one name the first in the list is taken.
def firstByName : List Node → Option Node
  | [] => none
  | n :: ns =>
    match firstByName ns with
    | none   => some n
    | some m => if m.name < n.name then some m else some n

-- The first selected node whose module is out of date.
def staleNode? (s : Setup σ) (t : Target) : Pass σ (Option Node) := do
  let nodes ← Pass.call s (.listNodes (t.selector.andPresent (t.key .loader)))
  pure (firstByName (nodes.filter (isStale t)))

def pluginPods (t : Target) (node : String) : PodQuery where
  ns     := some t.id.ns
  labels := .andEquals .everything operandNameLabel (Operand.devicePluginName t.id.name)
  node   := some node

def isUser (p : Pod) : Bool := !p.finished && p.requestsOnload

-- A refusal leaves the pod for the next pass.
def evict (s : Setup σ) (p : Pod) : Pass σ Unit := do
  match ← Pass.attempt s (.evictPod p.metadata.identity) with
  | .ok ()                       => Pass.countDrain .evict
  | .error (.evictionBlocked _)  => pure ()
  | .error e                     => throw (.cluster e)

def evictAll (s : Setup σ) : List Pod → Pass σ Unit
  | [] => pure ()
  | p :: ps => do
    evict s p
    evictAll s ps

def removeMarker (s : Setup σ) (t : Target) (m : Marker) (a : DrainAction) (n : Node) :
    Pass σ StepOutcome := do
  let _ ← Marking.unsetLabel s n (t.key m)
  Pass.countDrain a
  pure .requeueNow

def removeModules (s : Setup σ) (t : Target) (n : Node) : Pass σ StepOutcome :=
  if (t.marker? .sfc n).isSome then removeMarker s t .sfc .removeSfc n
  else removeMarker s t .loader .removeLoader n

-- First the ready marker goes, and with it the pods of the operands, then the workloads, then the
-- modules. Each pass takes one of these steps.
def node (s : Setup σ) (t : Target) (n : Node) : Pass σ StepOutcome := do
  if (t.marker? .ready n).isSome then removeMarker s t .ready .removeReady n
  else if !(← Pass.call s (.listPods (pluginPods t n.name))).isEmpty then
    pure (.requeueAfter s.requeueDelay)
  else
    match (← Pass.call s (.listPods (.onNode n.name))).filter isUser with
    | [] => removeModules s t n
    | users => do
      evictAll s (users.filter fun p => !p.metadata.terminating)
      pure (.requeueAfter s.requeueDelay)

def staleNodes : Step σ := fun s t => do
  match ← staleNode? s t with
  | none   => pure .nothingToDo
  | some n => node s t n

end KernelRollout.Drain
