import KernelRollout.Time.Duration
import KernelRollout.Worker.ContainerId

namespace KernelRollout.Wait

-- The pause after the n-th read: a tenth of a second, doubled each time, up to a second.
def pause : Nat → Nat
  | 0 => 100
  | 1 => 200
  | 2 => 400
  | 3 => 800
  | _ => 1000

theorem pause_pos (n : Nat) : 0 < pause n := by
  unfold pause
  split <;> decide

-- A source of pods: the answer to the n-th read, and how long each read takes.
structure Source where
  reply   : Nat → Except WorkerError Pod
  latency : Nat

-- Given replies, of which the last one is repeated.
def Source.scripted (replies : List (Except WorkerError Pod)) (latency : Nat) : Source where
  reply n := (replies[n]?).getD (replies.getLast?.getD (.ok {}))
  latency := latency

-- The pod and the container in it that are waited for.
structure Subject where
  ns        : String
  pod       : String
  container : String

structure Report where
  result  : Except WorkerError ContainerId
  -- Reads that were begun.
  reads   : Nat
  elapsed : Nat

-- What a reply says about the container, once it says something.
def settled? (container : String) : Except WorkerError Pod → Option (Except WorkerError ContainerId)
  | .error e => some (.error e)
  | .ok pod  => (pod.runningContainerId? container).map ContainerId.parse

-- The n-th read begins at `start`, which is not after the deadline. What happens at the deadline
-- itself still counts.
def readFrom (source : Source) (subject : Subject) (deadline : Nat) (n start : Nat) : Report :=
  let timeout : Report := {
    result := .error (.timeout subject.ns subject.pod subject.container (deadline / 1000))
    reads := n + 1, elapsed := deadline }
  let done := start + source.latency
  if deadline < done then timeout
  else
    match settled? subject.container (source.reply n) with
    | some result => { result, reads := n + 1, elapsed := done }
    | none =>
      if done + pause n ≤ deadline then
        have : start < done + pause n := by have := pause_pos n; omega
        readFrom source subject deadline (n + 1) (done + pause n)
      else timeout
termination_by deadline + 1 - start
decreasing_by
  have := pause_pos n
  omega

-- The pod is read again and again until the deadline. Times are in milliseconds.
def run (source : Source) (subject : Subject) (deadline : Nat) : Report :=
  readFrom source subject deadline 0 0

end KernelRollout.Wait
