import KernelRollout.Operator.Backoff
import Mathlib.Data.Nat.Fib.Basic

namespace KernelRollout

namespace Duration

theorem ofNanos_add_ofNanos (a b : Nat) : (ofNanos a).add (ofNanos b) = ofNanos (a + b) := by
  ext
  simp only [nanos_add, ofNanos, Nat.min_def]
  grind

theorem nanos_min_ofNanos (a : Nat) (d : Duration) : ((ofNanos a).min d).nanos = Nat.min a d.nanos := by
  have hd := d.le_max
  simp only [nanos_min, ofNanos, Nat.min_def]
  grind

theorem ofNanos_nanos (d : Duration) : ofNanos d.nanos = d :=
  ext_nanos (Nat.min_eq_left d.le_max)

end Duration

namespace Backoff

open Duration

-- Two neighbours of the sequence, and what comes `steps` places further on.
theorem nanos_delayFrom (max : Duration) (first k steps : Nat) :
    (delayFrom max (ofNanos (Nat.fib k * first)) (ofNanos (Nat.fib (k + 1) * first)) steps).nanos =
      Nat.min (Nat.fib (k + 1 + steps) * first) max.nanos := by
  induction steps generalizing k with
  | zero => exact nanos_min_ofNanos _ _
  | succ steps hi =>
    rw [delayFrom]
    split
    case isTrue hcap =>
      -- Later numbers are not smaller, so that they are capped too.
      have hle : Nat.fib (k + 1) * first ≤ Nat.fib (k + 1 + (steps + 1)) * first :=
        Nat.mul_le_mul_right _ (Nat.fib_mono (Nat.le_add_right _ _))
      have hmax : max.nanos ≤ Nat.fib (k + 1) * first := Nat.le_trans hcap (Nat.min_le_left _ _)
      rw [nanos_min_ofNanos]
      exact (Nat.min_eq_right hmax).trans (Nat.min_eq_right (Nat.le_trans hmax hle)).symm
    case isFalse =>
      have hnext : Nat.fib k * first + Nat.fib (k + 1) * first = Nat.fib (k + 2) * first := by
        rw [Nat.fib_add_two, Nat.add_mul]
      rw [ofNanos_add_ofNanos, hnext, hi (k + 1)]
      congr 3
      omega

theorem nanos_delayAfter (b : Backoff) {count : Nat} (h : 1 ≤ count) :
    (b.delayAfter count).nanos = Nat.min (Nat.fib count * b.min.nanos) b.max.nanos := by
  have hdelay := nanos_delayFrom b.max b.min.nanos 0 (count - 1)
  have hzero : ofNanos (Nat.fib 0 * b.min.nanos) = .zero := by
    rw [Nat.fib_zero, Nat.zero_mul]
    rfl
  have hcount : 0 + 1 + (count - 1) = count := by omega
  rwa [hzero, Nat.zero_add, Nat.fib_one, Nat.one_mul, ofNanos_nanos, hcount] at hdelay

-- Failures beyond the cap do not count.
theorem min_succ_maxCount (n : Nat) :
    Nat.min (Nat.min n maxCount + 1) maxCount = Nat.min (n + 1) maxCount := by
  simp only [Nat.min_def]
  grind

-- The sequence is beyond all durations long before counts stop.
theorem maxNanos_le_fib_maxCount : maxNanos ≤ Nat.fib maxCount :=
  calc maxNanos ≤ Nat.fib 140      := by decide +kernel
    _           ≤ Nat.fib maxCount := Nat.fib_mono (by decide)

-- Nothing is lost by a cap beyond all durations.
theorem capped_fib_min {cap : Nat} (hcap : maxNanos ≤ Nat.fib cap) (n : Nat) (first max : Duration) :
    Nat.min (Nat.fib (Nat.min n cap) * first.nanos) max.nanos =
      Nat.min (Nat.fib n * first.nanos) max.nanos := by
  cases Nat.le_total n cap
  case inl h => rw [show Nat.min n cap = n from Nat.min_eq_left h]
  case inr h =>
    rw [show Nat.min n cap = cap from Nat.min_eq_right h]
    cases Nat.eq_zero_or_pos first.nanos
    case inl hzero => simp [hzero]
    case inr hpos =>
      have hlong : max.nanos ≤ Nat.fib cap * first.nanos :=
        (max.le_max.trans hcap).trans (Nat.le_mul_of_pos_right _ hpos)
      have hlonger : max.nanos ≤ Nat.fib n * first.nanos :=
        hlong.trans (Nat.mul_le_mul_right _ (Nat.fib_mono h))
      exact (Nat.min_eq_right hlong).trans (Nat.min_eq_right hlonger).symm

inductive Event where
  | failed (key : String)
  | cleared (key : String)
deriving DecidableEq

def Event.apply : Event → Backoff → Backoff
  | failed key, b  => (b.recordFailure key).2
  | cleared key, b => b.clear key

-- There are no failures at first.
def after (min max : Duration) (es : List Event) : Backoff :=
  es.foldl (fun b e => e.apply b) { min, max }

-- The failures of a key since it was last cleared.
def streak (key : String) (es : List Event) : Nat :=
  (es.reverse.takeWhile (· ≠ .cleared key)).count (.failed key)

variable {min max : Duration} {es es' : List Event} {key k : String}

theorem after_concat (e : Event) : after min max (es ++ [e]) = e.apply (after min max es) := by
  simp [after]

theorem bounds_after (min max : Duration) (es : List Event) :
    (after min max es).min = min ∧ (after min max es).max = max := by
  induction es using List.reverseRecOn with
  | nil => exact ⟨rfl, rfl⟩
  | append_singleton es e hi =>
    rw [after_concat]
    cases e with
    | failed | cleared => exact hi

theorem streak_failed :
    streak key (es ++ [.failed k]) = streak key es + if k = key then 1 else 0 := by
  simp [streak, List.count_cons]

theorem streak_cleared :
    streak key (es ++ [.cleared k]) = if k = key then 0 else streak key es := by
  by_cases h : k = key <;> simp [streak, h]

-- A key that is not cleared keeps its failures.
theorem streak_le_append (h : .cleared key ∉ es') : streak key es ≤ streak key (es ++ es') := by
  have hkept : ∀ e ∈ es'.reverse, decide (e ≠ .cleared key) = true := by
    intro e he
    have hne : e ≠ .cleared key := fun heq => h (heq ▸ List.mem_reverse.mp he)
    exact decide_eq_true hne
  rw [streak, streak, List.reverse_append, List.takeWhile_append_of_pos hkept, List.count_append]
  exact Nat.le_add_left ..

theorem count_after (min max : Duration) (es : List Event) (key : String) :
    (after min max es).count key = Nat.min (streak key es) maxCount := by
  induction es using List.reverseRecOn with
  | nil => rfl
  | append_singleton es e hi =>
    rw [after_concat]
    cases e with
    | failed k =>
      rw [streak_failed, Event.apply]
      by_cases hk : k = key
      case pos =>
        subst hk
        rw [count_recordFailure_self, hi, min_succ_maxCount, if_pos rfl]
      case neg => rw [count_recordFailure_other _ (Ne.symm hk), hi, if_neg hk, Nat.add_zero]
    | cleared k =>
      rw [streak_cleared, Event.apply]
      by_cases hk : k = key
      case pos =>
        subst hk
        rw [count_clear_self, if_pos rfl]
        rfl
      case neg => rw [count_clear_other _ (Ne.symm hk), hi, if_neg hk]

-- What the next failure of a key is answered.
def next (min max : Duration) (es : List Event) (key : String) : Duration × Nat :=
  ((after min max es).recordFailure key).1

theorem count_next : (next min max es key).2 = Nat.min (streak key es + 1) maxCount := by
  show Nat.min ((after min max es).count key + 1) maxCount = _
  rw [count_after, min_succ_maxCount]

theorem delay_next : (next min max es key).1.nanos =
    Nat.min (Nat.fib (streak key es + 1) * min.nanos) max.nanos := by
  have ⟨hmin, hmax⟩ := bounds_after min max es
  have hpos : 1 ≤ Nat.min (streak key es + 1) maxCount :=
    Nat.le_min.mpr ⟨Nat.le_add_left .., by decide⟩
  show ((after min max es).delayAfter (next min max es key).2).nanos = _
  rw [count_next, nanos_delayAfter _ hpos, hmin, hmax, capped_fib_min maxNanos_le_fib_maxCount]

-- Whatever has happened before, a failure counts those of its key since it was cleared, and waits for
-- the capped Fibonacci number of the first delay in that place. As long as the key is not cleared,
-- delays do not get shorter.
theorem recordFailure_after (min max : Duration) (es : List Event) (key : String) :
    (next min max es key).2 = Nat.min (streak key es + 1) maxCount ∧
    (next min max es key).1.nanos = Nat.min (Nat.fib (next min max es key).2 * min.nanos) max.nanos ∧
    (next min max es key).1.nanos = Nat.min (Nat.fib (streak key es + 1) * min.nanos) max.nanos ∧
    (next min max es key).1.nanos ≤ max.nanos ∧
    ∀ es', .cleared key ∉ es' →
      (next min max es key).1.nanos ≤ (next min max (es ++ es') key).1.nanos := by
  refine ⟨count_next, ?capped, delay_next, ?bounded, fun es' hes' => ?monotone⟩
  case capped => rw [count_next, delay_next, capped_fib_min maxNanos_le_fib_maxCount]
  case bounded => exact delay_next ▸ Nat.min_le_right ..
  case monotone =>
    have hfib : Nat.fib (streak key es + 1) ≤ Nat.fib (streak key (es ++ es') + 1) :=
      Nat.fib_mono (Nat.succ_le_succ (streak_le_append hes'))
    rw [delay_next, delay_next]
    exact min_le_min_right _ (Nat.mul_le_mul_right _ hfib)

-- The third failure of a key since it was cleared, with those of another one in between.
theorem recordFailure_after_others :
    let es : List Event := [.failed "a", .cleared "a", .failed "a"]
    let es' : List Event := [.failed "b", .failed "a", .cleared "b"]
    .cleared "a" ∉ es' ∧
    next (.ofSecs 5) (.ofSecs 300) (es ++ es') "a" = (.ofSecs 10, 3) ∧
    (next (.ofSecs 5) (.ofSecs 300) es "a").1.nanos ≤
      (next (.ofSecs 5) (.ofSecs 300) (es ++ es') "a").1.nanos := by
  intro es es'
  have hes' : .cleared "a" ∉ es' := by decide
  have ⟨_, _, _, _, hmonotone⟩ := recordFailure_after (.ofSecs 5) (.ofSecs 300) es "a"
  exact ⟨hes', by decide +kernel, hmonotone es' hes'⟩

end Backoff

end KernelRollout
