import KernelRollout.Worker.Wait
import Mathlib.Algebra.BigOperators.Intervals

namespace KernelRollout

namespace Pod

variable {p : Pod} {container raw : String}

-- The first status of the container has it ready, started and running, with an identifier.
def Shows (p : Pod) (container raw : String) : Prop :=
  ∃ status statuses s state, p.status = some status ∧ status.containerStatuses = some statuses ∧
    statuses.find? (·.name = container) = some s ∧ s.ready = true ∧ s.started = some true ∧
    s.state = some state ∧ state.running.isSome = true ∧ s.containerID = some raw

theorem runningContainerId?_eq_some_iff :
    p.runningContainerId? container = some raw ↔ p.Shows container raw := by
  simp only [runningContainerId?, containerStatus?, ContainerStatus.isRunning, Shows,
    Option.bind_eq_bind, Option.bind_eq_some_iff, Option.ite_none_right_eq_some, Bool.and_eq_true,
    decide_eq_true_eq]
  constructor
  case mp =>
    intro ⟨s, ⟨status, hstatus, statuses, hstatuses, hs⟩, ⟨⟨hready, hstarted⟩, hrunning⟩, hid⟩
    have ⟨running, hrunning⟩ := Option.isSome_iff_exists.mp hrunning
    have ⟨state, hstate, hrunning⟩ := Option.bind_eq_some_iff.mp hrunning
    exact ⟨status, statuses, s, state, hstatus, hstatuses, hs, hready, hstarted, hstate,
      Option.isSome_of_eq_some hrunning, hid⟩
  case mpr =>
    intro ⟨status, statuses, s, state, hstatus, hstatuses, hs, hready, hstarted, hstate, hrunning, hid⟩
    refine ⟨s, ⟨status, hstatus, statuses, hstatuses, hs⟩, ⟨⟨hready, hstarted⟩, ?_⟩, hid⟩
    rwa [hstate, Option.bind_some]

end Pod

namespace Wait

open Finset (range)

variable {source : Source} {subject : Subject} {container : String} {deadline i j k n : Nat}
variable {reply : Except WorkerError Pod} {result : Except WorkerError ContainerId}

-- A reply that says something, and what it makes of the wait.
inductive Answers (container : String) :
    Except WorkerError Pod → Except WorkerError ContainerId → Prop
  | failed (e : WorkerError) : Answers container (.error e) (.error e)
  | shown (p : Pod) (raw : String) (h : p.Shows container raw) :
    Answers container (.ok p) (ContainerId.parse raw)

theorem settled?_eq_some_iff : settled? container reply = some result ↔ Answers container reply result := by
  constructor
  case mp =>
    intro h
    cases reply with
    | error e =>
      cases h
      exact .failed e
    | ok p =>
      obtain ⟨raw, hraw, rfl⟩ := Option.map_eq_some_iff.mp h
      exact .shown p raw (Pod.runningContainerId?_eq_some_iff.mp hraw)
  case mpr =>
    intro h
    cases h with
    | failed e => rfl
    | shown p raw h =>
      rw [settled?, Pod.runningContainerId?_eq_some_iff.mpr h]
      rfl

-- A read has the first reply that says something.
structure Decides (source : Source) (container : String) (k : Nat)
    (result : Except WorkerError ContainerId) : Prop where
  answers : Answers container (source.reply k) result
  first   : ∀ i < k, ∀ result', ¬Answers container (source.reply i) result'

theorem Decides.unique (h : Decides source container k result) {result' : Except WorkerError ContainerId}
    (h' : Decides source container j result') : j = k := by
  cases Nat.lt_trichotomy j k with
  | inl hlt => exact absurd h'.answers (h.first j hlt result')
  | inr hle =>
    cases hle with
    | inl heq => exact heq
    | inr hlt => exact absurd h.answers (h'.first k hlt result)

theorem pause_succ (n : Nat) : pause (n + 1) = min (2 * pause n) 1000 := by
  match n with
  | 0 | 1 | 2 | 3 | _ + 4 => rfl

theorem pause_eq (n : Nat) : pause n = min (100 * 2 ^ n) 1000 := by
  induction n with
  | zero => rfl
  | succ n hi =>
    rw [pause_succ, hi, Nat.pow_succ]
    omega

namespace Source

-- When a read begins, if the wait has not ended by then.
def begins (source : Source) (k : Nat) : Nat :=
  k * source.latency + ∑ i ∈ range k, min (100 * 2 ^ i) 1000

def ends (source : Source) (k : Nat) : Nat := source.begins k + source.latency

theorem begins_zero (source : Source) : source.begins 0 = 0 := by
  simp [begins]

theorem begins_succ (source : Source) (k : Nat) :
    source.begins (k + 1) = source.ends k + pause k := by
  rw [ends, begins, begins, Finset.sum_range_succ, Nat.succ_mul, pause_eq]
  omega

theorem begins_mono (source : Source) : Monotone source.begins := by
  refine monotone_nat_of_le_succ fun k => ?_
  rw [begins_succ, ends]
  omega

end Source

-- A wait that no read has ended in time.
def timedOut (subject : Subject) (deadline reads : Nat) : Report where
  result  := .error (.timeout subject.ns subject.pod subject.container (deadline / 1000))
  reads   := reads
  elapsed := deadline

theorem readFrom_begins (source : Source) (subject : Subject) (deadline n : Nat) :
    readFrom source subject deadline n (source.begins n) =
      if deadline < source.ends n then timedOut subject deadline (n + 1)
      else match settled? subject.container (source.reply n) with
        | some result => { result, reads := n + 1, elapsed := source.ends n }
        | none =>
          if source.begins (n + 1) ≤ deadline then
            readFrom source subject deadline (n + 1) (source.begins (n + 1))
          else timedOut subject deadline (n + 1) := by
  rw [readFrom]
  simp only [source.begins_succ, Source.ends]
  rfl

-- A wait that gets to the read that decides it.
theorem readFrom_decided (h : Decides source subject.container k result)
    (hk : source.ends k ≤ deadline) (hn : n ≤ k) :
    readFrom source subject deadline n (source.begins n) =
      { result, reads := k + 1, elapsed := source.ends k } := by
  induction hn using Nat.decreasingInduction with
  | self =>
    rw [readFrom_begins, if_neg (Nat.not_lt.mpr hk), settled?_eq_some_iff.mpr h.answers]
  | of_succ n hlt hi =>
    have hnext : source.begins (n + 1) ≤ deadline :=
      (source.begins_mono hlt).trans ((Nat.le_add_right ..).trans hk)
    have hends : source.ends n ≤ deadline := by
      rw [source.begins_succ] at hnext
      omega
    have hsilent : settled? subject.container (source.reply n) = none :=
      Option.eq_none_iff_forall_not_mem.mpr fun r hr => h.first n hlt r (settled?_eq_some_iff.mp hr)
    rw [readFrom_begins, if_neg (Nat.not_lt.mpr hends), hsilent]
    exact (if_pos hnext).trans hi

-- The last read that is begun: none before it has decided, and it decides itself, or the next one
-- would begin too late.
structure Last (source : Source) (container : String) (deadline k : Nat) : Prop where
  begun  : source.begins k ≤ deadline
  silent : ∀ i < k, ∀ result, ¬Answers container (source.reply i) result
  ends   : (∃ result, Answers container (source.reply k) result) ∨ deadline < source.begins (k + 1)

theorem Last.begun_iff (h : Last source container deadline k) :
    i < k + 1 ↔ source.begins i ≤ deadline ∧ ∀ j result, Decides source container j result → i ≤ j := by
  constructor
  case mp =>
    intro hi
    refine ⟨(source.begins_mono (Nat.le_of_lt_succ hi)).trans h.begun, fun j result hj => ?_⟩
    by_contra hlt
    exact h.silent j (by omega) result hj.answers
  case mpr =>
    intro ⟨hbegun, hfirst⟩
    by_contra hlt
    have hlt : k + 1 ≤ i := Nat.not_lt.mp hlt
    cases h.ends
    case inl hanswers =>
      have ⟨result, hanswers⟩ := hanswers
      exact Nat.not_succ_le_self k (hlt.trans (hfirst k result ⟨hanswers, h.silent⟩))
    case inr hlate => exact Nat.not_lt.mpr ((source.begins_mono hlt).trans hbegun) hlate

-- A wait that does not get to the end of a read that decides it.
theorem readFrom_undecided
    (h : ∀ k result, Decides source subject.container k result → deadline < source.ends k)
    (hbegun : source.begins n ≤ deadline)
    (hsilent : ∀ i < n, ∀ result, ¬Answers subject.container (source.reply i) result) :
    ∃ k, Last source subject.container deadline k ∧
      readFrom source subject deadline n (source.begins n) = timedOut subject deadline (k + 1) := by
  -- What is left of the time gets less with every read.
  induction hleft : deadline - source.begins n using Nat.strong_induction_on generalizing n with
  | h left hi =>
    subst hleft
    have hnext := source.begins_succ n
    have hends : source.ends n = source.begins n + source.latency := rfl
    have hpause := pause_pos n
    rw [readFrom_begins]
    by_cases hlate : deadline < source.ends n
    case pos => exact ⟨n, ⟨hbegun, hsilent, .inr (by omega)⟩, if_pos hlate⟩
    case neg =>
      rw [if_neg hlate]
      cases hreply : settled? subject.container (source.reply n) with
      | some result =>
        exact absurd (h n result ⟨settled?_eq_some_iff.mp hreply, hsilent⟩) hlate
      | none =>
        have hn : ∀ result, ¬Answers subject.container (source.reply n) result := by
          intro result hanswers
          rw [settled?_eq_some_iff.mpr hanswers] at hreply
          cases hreply
        by_cases htime : source.begins (n + 1) ≤ deadline
        case pos =>
          have hsilent' : ∀ i < n + 1, ∀ result, ¬Answers subject.container (source.reply i) result := by
            intro i hlt
            cases Nat.lt_succ_iff_lt_or_eq.mp hlt
            case inl hlt => exact hsilent i hlt
            case inr heq => exact heq ▸ hn
          have ⟨k, hk, he⟩ := hi _ (by omega) htime hsilent' rfl
          exact ⟨k, hk, (if_pos htime).trans he⟩
        case neg => exact ⟨n, ⟨hbegun, hsilent, .inr (Nat.not_le.mp htime)⟩, if_neg htime⟩

-- The first read whose reply says something decides if it ends by the deadline. Otherwise the wait
-- lasts until the deadline, and up to that read all are begun whose time comes. No wait lasts longer.
theorem run_exact (source : Source) (subject : Subject) (deadline : Nat) :
    (∀ k result, Decides source subject.container k result → source.ends k ≤ deadline →
      run source subject deadline = { result, reads := k + 1, elapsed := source.ends k }) ∧
    ((∀ k result, Decides source subject.container k result → deadline < source.ends k) →
      ∃ reads, run source subject deadline = timedOut subject deadline reads ∧
        ∀ i, i < reads ↔ source.begins i ≤ deadline ∧
          ∀ k result, Decides source subject.container k result → i ≤ k) ∧
    (run source subject deadline).elapsed ≤ deadline := by
  have hrun : run source subject deadline = readFrom source subject deadline 0 (source.begins 0) := by
    rw [source.begins_zero, run]
  have hdecided : ∀ k result, Decides source subject.container k result → source.ends k ≤ deadline →
      run source subject deadline = { result, reads := k + 1, elapsed := source.ends k } :=
    fun k result hk hin => hrun.trans (readFrom_decided hk hin (Nat.zero_le k))
  have hundecided (h : ∀ k result, Decides source subject.container k result → deadline < source.ends k) :
      ∃ k, Last source subject.container deadline k ∧
        run source subject deadline = timedOut subject deadline (k + 1) := by
    have hzero : source.begins 0 ≤ deadline := source.begins_zero.trans_le (Nat.zero_le deadline)
    rw [hrun]
    exact readFrom_undecided h hzero (by simp)
  refine ⟨hdecided, fun h => ?_, ?_⟩
  case refine_1 =>
    have ⟨k, hk, he⟩ := hundecided h
    exact ⟨k + 1, he, fun i => hk.begun_iff⟩
  case refine_2 =>
    by_cases h : ∃ k result, Decides source subject.container k result ∧ source.ends k ≤ deadline
    case pos =>
      have ⟨k, result, hk, hin⟩ := h
      rw [hdecided k result hk hin]
      exact hin
    case neg =>
      have ⟨k, _, he⟩ := hundecided fun k result hk => Nat.not_le.mp fun hin => h ⟨k, result, hk, hin⟩
      rw [he]
      exact Nat.le_refl deadline

-- The second read shows the container just at the deadline, or a millisecond after it.
theorem run_exact_at_deadline :
    ∃ (source : Source) (subject : Subject) (result : Except WorkerError ContainerId),
      Decides source subject.container 1 result ∧ source.ends 1 = 200 ∧
      run source subject 200 = { result, reads := 2, elapsed := 200 } ∧
      ∃ reads, run source subject 199 = timedOut subject 199 reads ∧ 1 < reads := by
  let status : ContainerStatus := {
    name := "server", ready := true, started := some true, containerID := some "cri-o://1"
    state := some { running := some {} } }
  let shown : Pod := { status := some { containerStatuses := some [status] } }
  let source : Source := .scripted [.ok {}, .ok shown] 50
  let subject : Subject := ⟨"default", "worker", "server"⟩
  have hk : Decides source subject.container 1 (ContainerId.parse "cri-o://1") := by
    refine ⟨settled?_eq_some_iff.mp rfl, fun i hi result hanswers => ?_⟩
    cases Nat.lt_one_iff.mp hi
    cases settled?_eq_some_iff.mpr hanswers
  have hends : source.ends 1 = 200 := by decide
  have ⟨hdecided, _⟩ := run_exact source subject 200
  have ⟨_, hundecided, _⟩ := run_exact source subject 199
  have hlate : ∀ k result, Decides source subject.container k result → 199 < source.ends k := by
    intro k result h
    rw [hk.unique h, hends]
    decide
  have ⟨reads, hreads, hbegun⟩ := hundecided hlate
  have hsecond : 1 < reads := (hbegun 1).mpr ⟨by decide, fun k result h => (hk.unique h).ge⟩
  exact ⟨source, subject, _, hk, hends, hends ▸ hdecided 1 _ hk hends.le, reads, hreads, hsecond⟩

end Wait

end KernelRollout
