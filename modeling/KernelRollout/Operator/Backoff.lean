import KernelRollout.Dict
import KernelRollout.Time.Duration

namespace KernelRollout

-- Failures in a row are counted by key.
structure Backoff where
  min      : Duration
  max      : Duration
  failures : Dict String Nat := .empty

namespace Backoff

-- The number of failures stays here.
def maxCount : Nat := 4294967295

-- The delay `steps` places further on from two neighbours of the sequence.
def delayFrom (max : Duration) (prev current : Duration) : Nat → Duration
  | 0 => current.min max
  | steps + 1 =>
    if max.nanos ≤ current.nanos then current.min max
    else delayFrom max current (prev.add current) steps

-- Delays grow like the Fibonacci numbers, from a first delay up to a longest one.
def delayAfter (b : Backoff) (count : Nat) : Duration := delayFrom b.max .zero b.min (count - 1)

def count (b : Backoff) (key : String) : Nat := (b.failures.get? key).getD 0

-- Counts one more failure, and gives the delay until the next attempt and the count.
def recordFailure (b : Backoff) (key : String) : (Duration × Nat) × Backoff :=
  let n := Nat.min (b.count key + 1) maxCount
  ((b.delayAfter n, n), { b with failures := b.failures.insert key n })

def clear (b : Backoff) (key : String) : Backoff := { b with failures := b.failures.erase key }

theorem count_recordFailure_self (b : Backoff) (key : String) :
    (b.recordFailure key).2.count key = Nat.min (b.count key + 1) maxCount := by
  simp [recordFailure, count]

theorem count_recordFailure_other (b : Backoff) {key k : String} (h : k ≠ key) :
    (b.recordFailure key).2.count k = b.count k := by
  simp [recordFailure, count, Dict.get?_insert_other _ _ h]

theorem count_clear_self (b : Backoff) (key : String) : (b.clear key).count key = 0 := by
  simp [clear, count]

theorem count_clear_other (b : Backoff) {key k : String} (h : k ≠ key) :
    (b.clear key).count k = b.count k := by
  simp [clear, count, Dict.get?_erase_other _ h]

end Backoff

end KernelRollout
