import KernelRollout.Cluster.Disturbed
import KernelRollout.Operator.Watch
import KernelRollout.Proofs.Cluster.Names
import KernelRollout.Proofs.Operator.Backoff
import KernelRollout.Proofs.Rollout.Routine
import KernelRollout.Proofs.Rollout.Run

namespace KernelRollout

open Pass

variable {σ : Type} {s : Setup σ} {id : Identity} {m : Metadata} {w w' : World σ} {b : Backoff}

namespace Reconcile

-- A pass finds no resource to work for.
def findsGone (s : Setup σ) (id : Identity) (w : World σ) : Bool :=
  match (s.client.answer (.getOnload id) w.cluster).1 with
  | .ok none => true
  | _        => false

def fails (s : Setup σ) (id : Identity) (w : World σ) : Bool := !(exec (pass s id) w).1.isOk

theorem backoff_gone (s : Setup σ) (id : Identity) (w : World σ) :
    (exec (gone s id) w).2.backoff =
      if (exec (gone s id) w).1.isOk then w.backoff.clear id.text else w.backoff := by
  have hsweep := (Sweep.routine_allMarkers id : Routine s False _).backoff_exec w
  rw [gone, exec_bind]
  generalize exec (Sweep.allMarkers s id) w = o at hsweep
  obtain ⟨r, w'⟩ := o
  cases r with
  | ok => exact congrArg (·.clear id.text) hsweep
  | error => exact hsweep

-- A pass ends the count of failures if it has cleaned up behind a resource that is gone. Otherwise
-- it leaves the counts alone.
theorem backoff_pass (s : Setup σ) (id : Identity) (w : World σ) :
    (exec (pass s id) w).2.backoff =
      if findsGone s id w && !fails s id w then w.backoff.clear id.text else w.backoff := by
  show (exec (uncounted s id) w).2.backoff =
    if findsGone s id w && !!(exec (uncounted s id) w).1.isOk then _ else _
  rw [Bool.not_not, uncounted, exec_bind, exec_call, findsGone]
  cases (s.client.answer (.getOnload id) w.cluster).1 with
  | error => rfl
  | ok found =>
    cases found with
    | none => exact backoff_gone s id _
    | some o => exact (routine_present o).backoff_exec _

end Reconcile

namespace Watch

open Reconcile (findsGone fails)

-- How the operator got to a pass.
inductive Path where
  | controller
  | deletion
deriving DecidableEq

-- What came of an entry of the controller, or of a deletion.
structure Report where
  id     : Identity
  path   : Path
  gone   : Bool
  failed : Bool

namespace Report

def ofEntry (s : Setup σ) (m : Metadata) (w : World σ) : Report where
  id     := m.identity
  path   := .controller
  gone   := m.ns.isSome && findsGone s m.identity w
  failed := !(exec (entry s m) w).1.isOk

-- A deletion without a namespace is passed over.
def ofDeletion? (s : Setup σ) (m : Metadata) (w : World σ) : Option Report :=
  if m.ns.isSome then some ⟨m.identity, .deletion, findsGone s m.identity w, fails s m.identity w⟩
  else none

-- Failures while following a deletion do not count.
def counts (r : Report) : Bool := r.path = .controller && r.failed

-- Failures count anew from here on.
def ends (r : Report) : Bool := !r.failed && (r.path = .controller || r.gone)

-- What comes of a report for the counts of failures.
def record (r : Report) (b : Backoff) : Backoff :=
  if r.ends then b.clear r.id.text
  else if r.counts then (b.recordFailure r.id.text).2
  else b

-- The failing entries of a resource since the last report of that resource that ends a count. The
-- latest report comes first.
def failures (ends : Report → Bool) (concerns : Identity → Bool) (rs : List Report) : Nat :=
  ((rs.filter (concerns ·.id)).takeWhile (!ends ·)).countP counts

-- The place in the row of the failure that comes next.
def next (ends : Report → Bool) (concerns : Identity → Bool) (rs : List Report) : Nat :=
  Nat.min (failures ends concerns rs + 1) Backoff.maxCount

theorem failures_cons (ends : Report → Bool) (concerns : Identity → Bool) (r : Report)
    (rs : List Report) :
    failures ends concerns (r :: rs) =
      if concerns r.id then
        if ends r then 0 else failures ends concerns rs + if r.counts then 1 else 0
      else failures ends concerns rs := by
  by_cases hc : concerns r.id <;> by_cases he : ends r <;>
    simp [failures, hc, he, List.countP_cons]

theorem next_congr {ends : Report → Bool} {concerns concerns' : Identity → Bool} {rs : List Report}
    (h : ∀ r ∈ rs, concerns r.id = concerns' r.id) : next ends concerns rs = next ends concerns' rs := by
  rw [next, next, failures, failures, List.filter_congr h]

theorem one_le_next (ends : Report → Bool) (concerns : Identity → Bool) (rs : List Report) :
    1 ≤ next ends concerns rs :=
  Nat.le_min.mpr ⟨Nat.le_add_left 1 _, by decide⟩

theorem count_record (r : Report) (b : Backoff) (key : String) :
    (r.record b).count key =
      if r.id.text = key then
        if r.ends then 0
        else if r.counts then Nat.min (b.count key + 1) Backoff.maxCount else b.count key
      else b.count key := by
  rw [record]
  by_cases hkey : r.id.text = key
  case pos =>
    subst hkey
    rw [if_pos rfl, apply_ite (Backoff.count · r.id.text), apply_ite (Backoff.count · r.id.text),
      Backoff.count_clear_self, Backoff.count_recordFailure_self]
  case neg =>
    have hne : key ≠ r.id.text := fun h => hkey h.symm
    rw [if_neg hkey, apply_ite (Backoff.count · key), apply_ite (Backoff.count · key),
      Backoff.count_clear_other b hne, Backoff.count_recordFailure_other b hne, ite_self, ite_self]

theorem count_foldr (hb : b.failures = .empty) (rs : List Report) (key : String) :
    (rs.foldr record b).count key =
      Nat.min (failures ends (·.text = key) rs) Backoff.maxCount := by
  induction rs with
  | nil =>
    rw [List.foldr_nil, Backoff.count, hb]
    rfl
  | cons r rs hi =>
    rw [List.foldr_cons, count_record, failures_cons, hi]
    grind

theorem bounds_foldr (rs : List Report) (b : Backoff) :
    (rs.foldr record b).min = b.min ∧ (rs.foldr record b).max = b.max := by
  induction rs with
  | nil => exact ⟨rfl, rfl⟩
  | cons r rs hi =>
    rw [List.foldr_cons, record]
    split
    case isTrue => exact hi
    case isFalse => split <;> exact hi

end Report

-- Clearing a count a second time changes nothing.
theorem clear_clear (b : Backoff) (key : String) : (b.clear key).clear key = b.clear key := by
  have h : (b.failures.erase key).erase key = b.failures.erase key := by
    refine Dict.ext_get? fun k => ?_
    rw [Dict.get?_erase]
    split
    case isTrue hk => rw [hk, Dict.get?_erase_self]
    case isFalse => rfl
  rw [Backoff.clear, Backoff.clear, h]

theorem exec_entry (s : Setup σ) (w : World σ) (h : m.ns.isSome) :
    exec (entry s m) w =
      match exec (Reconcile.pass s m.identity) w with
      | (.ok outcome, w') => (.ok outcome, { w' with backoff := w'.backoff.clear m.identity.text })
      | (.error e, w')    => (.error e, w') := by
  have ⟨ns, hns⟩ := Option.isSome_iff_exists.mp h
  rw [entry]
  simp only [hns]
  rw [exec_bind]
  obtain ⟨r, w'⟩ := exec (Reconcile.pass s m.identity) w
  cases r <;> rfl

theorem exec_entry_unplaced (s : Setup σ) (w : World σ) (h : m.ns = none) :
    exec (entry s m) w = (.error (.missingField (.ns m.identity.name)), w) := by
  rw [entry, h]
  rfl

theorem backoff_of_ok {outcome : StepOutcome} (h : exec (entry s m) w = (.ok outcome, w')) :
    w'.backoff = w.backoff.clear m.identity.text := by
  cases hns : m.ns with
  | none =>
    rw [exec_entry_unplaced s w hns] at h
    cases h
  | some ns =>
    have hpass := Reconcile.backoff_pass s m.identity w
    rw [exec_entry s w (Option.isSome_of_eq_some hns)] at h
    generalize exec (Reconcile.pass s m.identity) w = o at h hpass
    obtain ⟨r, w₁⟩ := o
    cases r with
    | error => cases h
    | ok =>
      cases h
      show w₁.backoff.clear m.identity.text = w.backoff.clear m.identity.text
      rw [hpass]
      split
      case isTrue => exact clear_clear _ _
      case isFalse => rfl

theorem backoff_of_error {e : OperatorError} (h : exec (entry s m) w = (.error e, w')) :
    w'.backoff = w.backoff := by
  cases hns : m.ns with
  | none =>
    rw [exec_entry_unplaced s w hns] at h
    cases h
    rfl
  | some ns =>
    have hpass := Reconcile.backoff_pass s m.identity w
    rw [exec_entry s w (Option.isSome_of_eq_some hns)] at h
    rw [fails] at hpass
    generalize exec (Reconcile.pass s m.identity) w = o at h hpass
    obtain ⟨r, w₁⟩ := o
    cases r with
    | ok => cases h
    | error =>
      cases h
      simpa [Except.isOk, Except.toBool] using hpass

theorem backoff_attempt (s : Setup σ) (m : Metadata) (w : World σ) :
    (attempt s m w).2.backoff = (Report.ofEntry s m w).record w.backoff := by
  cases hentry : exec (entry s m) w with
  | mk r w' =>
    rw [attempt, show entry s m w = _ from hentry, Report.ofEntry, hentry]
    cases r with
    | ok => exact backoff_of_ok hentry
    | error =>
      show (w'.backoff.recordFailure m.identity.text).2 = (w.backoff.recordFailure m.identity.text).2
      rw [backoff_of_error hentry]

-- A failing entry is one more failure in a row, and waits as long as befits their number.
theorem delay_attempt {e : OperatorError} (h : (exec (entry s m) w).1 = .error e) :
    (attempt s m w).1 =
      some (w.backoff.delayAfter (Nat.min (w.backoff.count m.identity.text + 1) Backoff.maxCount)) := by
  cases hentry : exec (entry s m) w with
  | mk r w' =>
    rw [hentry] at h
    cases h
    rw [attempt, show entry s m w = _ from hentry]
    show some (w'.backoff.recordFailure m.identity.text).1.1 = _
    rw [backoff_of_error hentry]
    rfl

theorem backoff_onItem (s : Setup σ) (m : Metadata) (w : World σ) :
    (onItem s (.deleted m) w).backoff =
      (Report.ofDeletion? s m w).toList.foldr Report.record w.backoff := by
  rw [onItem, Report.ofDeletion?]
  split
  case isFalse => rfl
  case isTrue =>
    refine (Reconcile.backoff_pass s m.identity w).trans ?_
    simp [Report.record, Report.ends, Report.counts, Bool.and_comm]

-- What the operator does for all resources, with whatever others do to the cluster in between.
inductive History (w : World σ) : World σ → Type 1
  | start : History w w
  | entry {w₁ : World σ} (h : History w w₁) (s : Setup σ) (m : Metadata) :
    History w (attempt s m w₁).2
  | deletion {w₁ : World σ} (h : History w w₁) (s : Setup σ) (m : Metadata) :
    History w (onItem s (.deleted m) w₁)
  | others {w₁ : World σ} (h : History w w₁) (c : σ) : History w { w₁ with cluster := c }

namespace History

-- The latest report comes first.
def reports {w' : World σ} : History w w' → List Report
  | start                 => []
  | @entry _ _ w₁ h s m    => .ofEntry s m w₁ :: h.reports
  | @deletion _ _ w₁ h s m => (Report.ofDeletion? s m w₁).toList ++ h.reports
  | others h _            => h.reports

-- The memory of the operator is what its reports leave there.
theorem backoff_eq (h : History w w') : w'.backoff = h.reports.foldr Report.record w.backoff := by
  induction h with
  | start => rfl
  | entry h s m hi =>
    rw [backoff_attempt, hi]
    rfl
  | deletion h s m hi => rw [backoff_onItem, hi, reports, List.foldr_append]
  | others h c hi => exact hi

end History

-- The delay is a Fibonacci number of the first delay, up to the longest one. Only reports of the
-- same resource have a part in it, and resources are told apart by their names as long as no
-- namespace has a separator in it.
theorem delay_follows_failures (h : History w w') (hw : w.backoff.failures = .empty)
    (s : Setup σ) (m : Metadata) {e : OperatorError} (hfails : (exec (entry s m) w').1 = .error e) :
    (∃ d, (attempt s m w').1 = some d ∧
      d.nanos = Nat.min
        (Nat.fib (Report.next Report.ends (·.text = m.identity.text) h.reports) * w.backoff.min.nanos)
        w.backoff.max.nanos) ∧
    ('/' ∉ m.identity.ns.toList → (∀ r ∈ h.reports, '/' ∉ r.id.ns.toList) →
      Report.next Report.ends (·.text = m.identity.text) h.reports =
        Report.next Report.ends (· = m.identity) h.reports) := by
  refine ⟨⟨_, delay_attempt hfails, ?delay⟩, fun hns hrs => ?same⟩
  case delay =>
    have hcount := Report.count_foldr hw h.reports m.identity.text
    have ⟨hmin, hmax⟩ := Report.bounds_foldr h.reports w.backoff
    rw [← h.backoff_eq] at hcount hmin hmax
    have hnext : Nat.min (w'.backoff.count m.identity.text + 1) Backoff.maxCount =
        Report.next Report.ends (·.text = m.identity.text) h.reports := by
      rw [hcount, Backoff.min_succ_maxCount, Report.next]
    rw [hnext, Backoff.nanos_delayAfter _ (Report.one_le_next _ _ _), hmin, hmax]
  case same =>
    refine Report.next_congr fun r hr => decide_eq_decide.mpr ?_
    exact ⟨Identity.text_inj (hrs r hr) hns, congrArg _⟩

-- A resource without a version goes and comes back. Another one fails too, and somebody takes the
-- first for deleted while it is there. It has failed twice since it came back.
theorem delay_follows_failures_returned :
    ∃ (w w' : World Cluster) (h : History w w') (s : Setup Cluster) (m : Metadata) (e : OperatorError),
      w.backoff.failures = .empty ∧ (exec (entry s m) w').1 = .error e ∧ h.reports.length = 6 ∧
      Report.next Report.ends (· = m.identity) h.reports = 3 ∧
      ∃ d, (attempt s m w').1 = some d ∧ d.nanos = 2 * w.backoff.min.nanos := by
  let s : Setup Cluster := .inMemory .zero Sample.now
  let onload : Onload := Sample.onload ""
  let m : Metadata := onload.metadata
  let other : Metadata := { m with name := some "other" }
  let c : Cluster := Edit.applyAll [.putOnload onload, .putOnload { onload with metadata := other }] {}
  let w : World Cluster := {
    cluster := c
    metrics := {}
    backoff := { min := .ofSecs 5, max := .ofSecs 300 } }
  obtain ⟨w', h, hlength, hns, hnext, hfails⟩ : ∃ (w' : World Cluster) (h : History w w'),
      h.reports.length = 6 ∧ (∀ r ∈ h.reports, '/' ∉ r.id.ns.toList) ∧
      Report.next Report.ends (·.text = m.identity.text) h.reports = 3 ∧
      (exec (entry s m) w').1 = .error (.invalidConfig .blankVersion) :=
    ⟨_, History.start
      |>.entry s m
      |>.others (c.removeOnload Sample.resource)
      |>.deletion s m
      |>.others c
      |>.entry s m
      |>.entry s other
      |>.deletion s m
      |>.entry s m, by decide +kernel⟩
  have ⟨⟨d, hd, hnanos⟩, hsame⟩ := delay_follows_failures h rfl s m hfails
  rw [hnext] at hnanos hsame
  exact ⟨w, w', h, s, m, _, rfl, hfails, hlength, (hsame (by decide) hns).symm, d, hd,
    hnanos.trans (by decide +kernel)⟩

-- A pass that finds the resource gone and fails does not end the count. Had it done so, the next
-- failure would have been the first one.
theorem delay_follows_failures_uncleaned :
    ∃ (w w' : World Disturbed) (h : History w w') (s : Setup Disturbed) (m : Metadata),
      w.backoff.failures = .empty ∧ m.ns.isSome ∧ (exec (entry s m) w').1.isOk = false ∧
      let next := Report.next (fun r => (r.path = .controller && !r.failed) || r.gone) (· = m.identity)
        h.reports
      (attempt s m w').1.map (·.nanos) ≠
        some (Nat.min (Nat.fib next * w.backoff.min.nanos) w.backoff.max.nanos) := by
  let s : Setup Disturbed := ⟨Disturbed.client, .zero, Sample.now⟩
  let onload : Onload := Sample.onload ""
  let m : Metadata := onload.metadata
  let c : Cluster := Cluster.putOnload {} onload
  let w : World Disturbed := {
    cluster := { cluster := c }
    metrics := {}
    backoff := { min := .ofSecs 5, max := .ofSecs 300 } }
  let lost : Disturbance := ⟨.listNodes, 1, [], some (.timeout "" 1)⟩
  refine ⟨w, _, History.start
    |>.entry s m
    |>.entry s m
    |>.others { cluster := c.removeOnload Sample.resource, disturbances := [lost] }
    |>.deletion s m
    |>.others { cluster := c }, s, m, rfl, rfl, ?_, ?_⟩
  all_goals decide +kernel

end Watch

end KernelRollout
