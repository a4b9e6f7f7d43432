import KernelRollout.Text.Numeral

namespace KernelRollout.Text

-- Takes what is read from the front of a text and leaves the rest.
abbrev Scan (α : Type) := List Char → Option (α × List Char)

def skip (c : Char) : List Char → Option (List Char)
  | c' :: cs => if c = c' then some cs else none
  | []       => none

def natOf (ds : List Char) : Nat := ds.foldl (fun n c => n * 10 + digitValue c) 0

-- All digits, and at least one.
def scanNat : Scan Nat := fun cs =>
  let ds := cs.takeWhile Char.isDigit
  if ds.isEmpty then none else some (natOf ds, cs.drop ds.length)

-- One up to `width` digits.
def scanDigits (width : Nat) : Scan Nat := fun cs =>
  let ds := (cs.take width).takeWhile Char.isDigit
  if ds.isEmpty then none else some (natOf ds, cs.drop ds.length)

end KernelRollout.Text
