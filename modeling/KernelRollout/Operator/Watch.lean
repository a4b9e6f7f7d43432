import KernelRollout.Rollout.Reconcile

namespace KernelRollout.Watch

variable {σ : Type}

-- The key under which failures of a resource are counted.
def failureKey (m : Metadata) : String := m.identity.text

-- A pass for a known resource. A success ends the count of its failures.
def entry (s : Setup σ) (m : Metadata) : Pass σ StepOutcome :=
  match m.ns with
  | none => throw (.missingField (.ns m.identity.name))
  | some _ => do
    let outcome ← Reconcile.pass s m.identity
    Pass.clearFailures (failureKey m)
    pure outcome

-- After a failure the next attempt waits, the longer the more failures there were.
def afterFailure (m : Metadata) (w : World σ) : Duration × World σ :=
  let ((delay, _), backoff) := w.backoff.recordFailure (failureKey m)
  (delay, { w with backoff })

-- An attempt, and the delay after which the next one is asked for.
def attempt (s : Setup σ) (m : Metadata) (w : World σ) : Option Duration × World σ :=
  match entry s m w with
  | (.ok outcome, w) => (outcome.delay?, w)
  | (.error _, w) =>
    let (delay, w) := afterFailure m w
    (some delay, w)

inductive EventType where
  | added
  | modified
  | deleted
deriving DecidableEq

inductive Event where
  | onload (type : EventType) (m : Metadata)
  | node

structure TimedEvent where
  time  : Nat
  event : Event

-- Events of one stream, each some time after the one before it.
def schedule (start : Nat) : List (Nat × Event) → List TimedEvent
  | []               => []
  | (after, e) :: es => ⟨start + after, e⟩ :: schedule (start + after) es

-- Two streams in the order of time. Of events at one time those of the first stream come first.
def merge (es₁ es₂ : List TimedEvent) : List TimedEvent :=
  (es₁ ++ es₂).mergeSort fun a b => a.time ≤ b.time

-- A pass that was run, and the state that it left.
structure Run (σ : Type) where
  time  : Nat
  id    : Identity
  world : World σ

-- How long a request waits for others of its kind.
def debounce : Nat := 1000

-- Runs passes for the resource that it knows, and tries again after failures. Times are in
-- milliseconds.
structure Controller (σ : Type) where
  world : World σ
  -- The resource that the controller knows.
  known : Option Metadata := none
  -- When the next pass is due.
  due   : Option Nat := none
  -- The passes so far, the latest first.
  runs  : List (Run σ) := []

namespace Controller

-- A request for time `t` puts off a pass that would not run before, and is dropped otherwise.
def request (c : Controller σ) (t : Nat) : Controller σ :=
  match c.due with
  | none => { c with due := some (t + debounce) }
  | some due => if t ≤ due then { c with due := some (t + debounce) } else c

def handle (c : Controller σ) (e : TimedEvent) : Controller σ :=
  match e.event with
  | .onload .deleted _ => { c with known := none }
  | .onload _ m        => { c with known := some m }.request e.time
  | .node              => if c.known.isSome then c.request e.time else c

-- The pass that is due at time `t`. A resource that is no longer known is skipped.
def run (s : Setup σ) (c : Controller σ) (t : Nat) : Controller σ :=
  let c := { c with due := none }
  match c.known with
  | none => c
  | some m =>
    let (delay, world) := attempt s m c.world
    let runs := if m.ns.isSome then ⟨t, m.identity, world⟩ :: c.runs else c.runs
    let c := { c with world, runs }
    match delay with
    | none   => c
    | some d => { c with due := some (t + d.millis + debounce) }

theorem lt_due_run {s : Setup σ} {c : Controller σ} {t t' : Nat} (h : (c.run s t).due = some t') :
    t < t' := by
  simp only [run] at h
  split at h
  · simp at h
  · split at h
    · simp at h
    · simp only [Option.some.injEq, debounce] at h
      omega

-- The passes from time `t` on that are due before `limit`.
def runFrom (s : Setup σ) (limit : Nat) (c : Controller σ) (t : Nat) : Controller σ :=
  if t < limit then
    let c' := c.run s t
    match h : c'.due with
    | none => c'
    | some t' =>
      have : t < t' := lt_due_run h
      runFrom s limit c' t'
  else c
termination_by limit - t

-- All passes that are due before `limit`.
def runBefore (s : Setup σ) (limit : Nat) (c : Controller σ) : Controller σ :=
  match c.due with
  | none   => c
  | some t => runFrom s limit c t

-- An event comes before a pass that is due at the same time.
def follow (s : Setup σ) : List TimedEvent → Controller σ → Controller σ
  | [], c      => c
  | e :: es, c => follow s es ((c.runBefore s e.time).handle e)

end Controller

-- The controller over the events up to a time. Resources that exist at the start are requested at
-- once.
def control (s : Setup σ) (listed : List Metadata) (events : List TimedEvent) (limit : Nat)
    (w : World σ) : Controller σ :=
  let listing := listed.map fun m => ⟨0, .onload .added m⟩
  let events := (listing ++ events).filter (·.time ≤ limit)
  (Controller.follow s events { world := w }).runBefore s (limit + 1)

-- What a stream of watch events brings. Deletions are followed on their own, because a resource
-- that is gone is no longer known to the controller.
inductive StreamItem where
  | deleted (m : Metadata)
  | other
  | failure

-- A pass for a resource that was deleted. Whatever comes of it, the stream is followed further.
def onItem (s : Setup σ) (item : StreamItem) (w : World σ) : World σ :=
  match item with
  | .deleted m => if m.ns.isSome then (Reconcile.pass s m.identity w).2 else w
  | _          => w

-- The stream never ends by itself.
def followDeletions (s : Setup σ) : List StreamItem → Pass σ Unit
  | []            => throw .watchEnded
  | item :: items => fun w => followDeletions s items (onItem s item w)

-- The passes that the deletions up to a time bring about, the latest first, and the final state.
def deletionRuns (s : Setup σ) (limit : Nat) : List TimedEvent → World σ × List (Run σ) →
    World σ × List (Run σ)
  | [], r => r
  | e :: es, (w, runs) =>
    if limit < e.time then (w, runs)
    else
      match e.event with
      | .onload .deleted m =>
        let w := onItem s (.deleted m) w
        deletionRuns s limit es (w, if m.ns.isSome then ⟨e.time, m.identity, w⟩ :: runs else runs)
      | _ => deletionRuns s limit es (w, runs)

end KernelRollout.Watch
