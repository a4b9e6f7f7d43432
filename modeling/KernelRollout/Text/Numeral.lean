namespace KernelRollout.Text

inductive NumeralError where
  | empty
  | invalidDigit
  | tooLarge
deriving DecidableEq, Repr

namespace NumeralError

def message : NumeralError → String
  | empty        => "cannot parse integer from empty string"
  | invalidDigit => "invalid digit found in string"
  | tooLarge     => "number too large to fit in target type"

end NumeralError

def digitValue (c : Char) : Nat := c.toNat - '0'.toNat

def hexDigit? (c : Char) : Option Nat :=
  if c.isDigit then some (digitValue c)
  else if 'a' ≤ c ∧ c ≤ 'f' then some (c.toNat - 'a'.toNat + 10)
  else if 'A' ≤ c ∧ c ≤ 'F' then some (c.toNat - 'A'.toNat + 10)
  else none

-- The digits are taken from the left: a character that is no digit and a value that has left the
-- bound are reported in the order in which they are met.
def readDigits (bound : Nat) : Nat → List Char → Except NumeralError Nat
  | acc, [] => .ok acc
  | acc, c :: cs =>
    if c.isDigit then
      let acc' := acc * 10 + digitValue c
      if acc' < bound then readDigits bound acc' cs else .error .tooLarge
    else .error .invalidDigit

-- An optional plus sign may stand in front, and leading zeros do not matter.
def readNumeral (bound : Nat) : List Char → Except NumeralError Nat
  | []       => .error .empty
  | ['+']    => .error .invalidDigit
  | '+' :: cs => readDigits bound 0 cs
  | cs       => readDigits bound 0 cs

-- One more than the largest number of 64 bits.
def wordBound : Nat := 18446744073709551616

-- At least `width` digits, with zeros in front.
def padded (width n : Nat) : String :=
  let digits := toString n
  "".pushn '0' (width - digits.length) ++ digits

end KernelRollout.Text
