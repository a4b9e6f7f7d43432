import KernelRollout.Rollout.Drain
import KernelRollout.Rollout.Provision
import KernelRollout.Rollout.Renewal

namespace KernelRollout.Reconcile

variable {σ : Type}

-- Operands are brought to the version before nodes are.
def upgrade : Step σ := Step.andThen Renewal.operands Drain.staleNodes

-- A pass takes the first step that still has something to do, so that it may be interrupted
-- anywhere.
def steps : Step σ :=
  Step.andThen Marking.loaderMarkers <|
  Step.andThen Provision.kernelModules <|
  Step.andThen Marking.readyMarkers <|
  Step.andThen Provision.daemonSets upgrade

def readyCondition : String := "Ready"

def statusText (ready : Bool) : String := if ready then "True" else "False"

def reports (ready : Bool) (reason message : String) (c : Condition) : Bool :=
  c.status = statusText ready && c.reason = some reason && c.message = some message

-- All other conditions are kept, and the new one comes last.
def withReady (o : Onload) (ready : Bool) (reason message : String) (now : Timestamp) : OnloadStatus where
  conditions :=
    ((o.status.map (·.conditions)).getD []).filter (·.type ≠ readyCondition) ++
    [{ type := readyCondition, status := statusText ready, reason := some reason,
       message := some message, lastTransitionTime := some now }]
  lastReconciled := some now

-- Writes the condition unless it is there already. A failure to write is of no consequence.
def report (s : Setup σ) (t : Target) (ready : Bool) (reason message : String) : Pass σ Unit := do
  if (t.onload.condition? readyCondition).any (reports ready reason message) then pure ()
  else do
    let _ ← Pass.attempt s (.patchOnloadStatus t.id (withReady t.onload ready reason message s.now))

def rolledOut : String := "Onload is rolled out on every selected node"

-- A resource that is gone leaves no markers and no failures behind.
def gone (s : Setup σ) (id : Identity) : Pass σ StepOutcome := do
  Sweep.allMarkers s id
  Pass.clearFailures id.text
  pure .nothingToDo

def valid (s : Setup σ) (t : Target) : Pass σ StepOutcome := do
  let outcome ← steps s t
  if outcome = .nothingToDo then report s t true "Reconciled" rolledOut
  pure outcome

def present (s : Setup σ) (o : Onload) : Pass σ StepOutcome := do
  if o.metadata.terminating then pure .nothingToDo
  else do
    let t ← Pass.ofExcept (Target.of o)
    match o.validate with
    | .ok () => valid s t
    | .error e => do
      report s t false "InvalidConfig" (e.message?.getD "")
      throw e

def uncounted (s : Setup σ) (id : Identity) : Pass σ StepOutcome := do
  match ← Pass.call s (.getOnload id) with
  | none   => gone s id
  | some o => present s o

def resultOf : Except OperatorError StepOutcome → PassResult
  | .ok outcome              => outcome.result
  | .error (.invalidConfig _) => .invalidConfig
  | .error _                 => .error

-- Every pass is counted by its result.
def pass (s : Setup σ) (id : Identity) : Pass σ StepOutcome := fun w =>
  let (result, w) := uncounted s id w
  (result, { w with metrics := w.metrics.recordPass (resultOf result) })

-- Passes until one does not ask for the next at once, at most `max` of them.
def passes (s : Setup σ) (id : Identity) : (max : Nat) → World σ →
    List (Except OperatorError StepOutcome × World σ)
  | 0, _ => []
  | max + 1, w =>
    let (result, w) := pass s id w
    match result with
    | .ok .requeueNow => (result, w) :: passes s id max w
    | _               => [(result, w)]

end KernelRollout.Reconcile
