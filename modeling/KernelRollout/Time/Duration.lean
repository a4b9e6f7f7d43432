import KernelRollout.Text.Numeral

namespace KernelRollout

def nanosPerSecond : Nat := 1000000000

def nanosPerMilli : Nat := 1000000

-- One nanosecond less than 2^64 seconds.
def maxNanos : Nat := Text.wordBound * nanosPerSecond - 1

-- There is a longest duration, and sums that would be longer stay there.
structure Duration where
  nanos  : Nat
  le_max : nanos ≤ maxNanos
deriving DecidableEq

namespace Duration

def ofNanos (n : Nat) : Duration := ⟨min n maxNanos, Nat.min_le_right ..⟩

def zero : Duration := ⟨0, Nat.zero_le _⟩

instance : Inhabited Duration := ⟨zero⟩

def ofSecs (n : Nat) : Duration := ofNanos (n * nanosPerSecond)

def secs (d : Duration) : Nat := d.nanos / nanosPerSecond

def millis (d : Duration) : Nat := d.nanos / nanosPerMilli

def add (a b : Duration) : Duration := ofNanos (a.nanos + b.nanos)

def min (a b : Duration) : Duration := if a.nanos ≤ b.nanos then a else b

theorem nanos_add (a b : Duration) : (a.add b).nanos = Nat.min (a.nanos + b.nanos) maxNanos := rfl

theorem nanos_min (a b : Duration) : (a.min b).nanos = Nat.min a.nanos b.nanos := by
  simp only [min]
  split <;> simp only [Nat.min_def] <;> split <;> omega

@[ext]
theorem ext_nanos {a b : Duration} (h : a.nanos = b.nanos) : a = b := by
  cases a; cases b; simp_all

-- Decimal seconds: whole, or with nine places.
def text (d : Duration) : String :=
  let fraction := d.nanos % nanosPerSecond
  if fraction = 0 then toString d.secs
  else toString d.secs ++ "." ++ Text.padded 9 fraction

end Duration

end KernelRollout
