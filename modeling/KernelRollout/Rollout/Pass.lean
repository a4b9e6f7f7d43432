import KernelRollout.Cluster.Call
import KernelRollout.Operator.Backoff
import KernelRollout.Operator.Metrics
import KernelRollout.Rollout.Target

namespace KernelRollout

-- What passes need to know, and do not change.
structure Setup (σ : Type) where
  client       : Client σ
  requeueDelay : Duration
  now          : Timestamp

-- What passes change.
structure World (σ : Type) where
  cluster : σ
  metrics : Metrics
  backoff : Backoff

-- Calls a cluster, counts what it does, and may fail. What it has done before it fails stays done.
abbrev Pass (σ α : Type) := ExceptT OperatorError (StateM (World σ)) α

namespace Pass

variable {σ α : Type}

-- What a call answers, failed or not.
def attempt (s : Setup σ) (call : Call α) : Pass σ (Except ClusterError α) := fun w =>
  let (result, cluster) := s.client.answer call w.cluster
  (.ok result, { w with cluster })

-- The answer to a call, which has to succeed.
def call (s : Setup σ) (c : Call α) : Pass σ α := do
  match ← attempt s c with
  | .ok a    => pure a
  | .error e => throw (.cluster e)

def countDrain (a : DrainAction) : Pass σ Unit :=
  modify fun w => { w with metrics := w.metrics.recordDrain a }

def clearFailures (key : String) : Pass σ Unit :=
  modify fun w => { w with backoff := w.backoff.clear key }

-- A step that needs no cluster.
def ofExcept (r : Except OperatorError α) : Pass σ α := fun w => (r, w)

end Pass

-- What is left to do after a step.
inductive StepOutcome where
  | nothingToDo
  -- Something changed: run the next pass at once.
  | requeueNow
  -- Something has to happen in the cluster first.
  | requeueAfter (delay : Duration)
deriving DecidableEq

namespace StepOutcome

def ofChanged (changed : Bool) : StepOutcome := if changed then requeueNow else nothingToDo

-- When the next pass is due, unless nothing is left to do.
def delay? : StepOutcome → Option Duration
  | nothingToDo    => none
  | requeueNow     => some .zero
  | requeueAfter d => some d

def result : StepOutcome → PassResult
  | nothingToDo    => .done
  | requeueNow     => .requeue
  | requeueAfter _ => .wait

end StepOutcome

abbrev Step (σ : Type) := Setup σ → Target → Pass σ StepOutcome

-- Runs the second step when the first one has nothing to do.
def Step.andThen (first second : Step σ) : Step σ := fun s t => do
  match ← first s t with
  | .nothingToDo => second s t
  | outcome      => pure outcome

end KernelRollout
