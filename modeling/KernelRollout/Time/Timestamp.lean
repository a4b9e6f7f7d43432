import KernelRollout.Text.Blank
import KernelRollout.Text.Scan

namespace KernelRollout

def isLeapYear (year : Int) : Bool := year % 4 = 0 && (year % 100 ≠ 0 || year % 400 = 0)

def daysInMonth (year : Int) (month : Nat) : Nat :=
  if month = 2 then (if isLeapYear year then 29 else 28)
  else if month = 4 || month = 6 || month = 9 || month = 11 then 30
  else 31

structure Date where
  year  : Int
  month : Nat
  day   : Nat
deriving DecidableEq, Repr

namespace Date

def minYear : Int := -262143

def maxYear : Int := 262142

def Valid (d : Date) : Prop :=
  minYear ≤ d.year ∧ d.year ≤ maxYear ∧ 1 ≤ d.month ∧ d.month ≤ 12 ∧
    1 ≤ d.day ∧ d.day ≤ daysInMonth d.year d.month

instance (d : Date) : Decidable d.Valid := by unfold Valid; infer_instance

def next (d : Date) : Date :=
  if d.day < daysInMonth d.year d.month then { d with day := d.day + 1 }
  else if d.month < 12 then ⟨d.year, d.month + 1, 1⟩
  else ⟨d.year + 1, 1, 1⟩

def prev (d : Date) : Date :=
  if 1 < d.day then { d with day := d.day - 1 }
  else if 1 < d.month then ⟨d.year, d.month - 1, daysInMonth d.year (d.month - 1)⟩
  else ⟨d.year - 1, 12, 31⟩

end Date

namespace Timestamp

-- What a calendar and a clock show. The second 60 is a leap second.
structure Reading where
  date   : Date
  hour   : Nat
  minute : Nat
  second : Nat
  nanos  : Nat
deriving DecidableEq, Repr

namespace Reading

def Valid (r : Reading) : Prop :=
  r.date.Valid ∧ r.hour < 24 ∧ r.minute < 60 ∧ r.second ≤ 60 ∧ r.nanos < 1000000000

instance (r : Reading) : Decidable r.Valid := by unfold Valid; infer_instance

-- The reading at the same time where clocks are `minutes` behind. A zone is less than a day away.
def behind (r : Reading) (minutes : Int) : Reading :=
  let m : Int := r.hour * 60 + r.minute - minutes
  let (date, m) :=
    if m < 0 then (r.date.prev, m + 1440)
    else if 1440 ≤ m then (r.date.next, m - 1440)
    else (r.date, m)
  { r with date, hour := m.toNat / 60, minute := m.toNat % 60 }

end Reading

end Timestamp

-- A point in time, by what the clocks of UTC show.
structure Timestamp where
  reading : Timestamp.Reading
  valid   : reading.Valid
deriving DecidableEq

namespace Timestamp

-- Years of four digits stand alone, and others carry a sign.
def yearText (y : Int) : String :=
  if 0 ≤ y ∧ y ≤ 9999 then Text.padded 4 y.toNat
  else (if y < 0 then "-" else "+") ++ Text.padded 4 y.natAbs

-- The shortest of no, three, six and nine places that is exact.
def fractionText (nanos : Nat) : String :=
  if nanos = 0 then ""
  else if nanos % 1000000 = 0 then "." ++ Text.padded 3 (nanos / 1000000)
  else if nanos % 1000 = 0 then "." ++ Text.padded 6 (nanos / 1000)
  else "." ++ Text.padded 9 nanos

def Reading.text (r : Reading) : String :=
  yearText r.date.year ++ "-" ++ Text.padded 2 r.date.month ++ "-" ++ Text.padded 2 r.date.day ++
    "T" ++ Text.padded 2 r.hour ++ ":" ++ Text.padded 2 r.minute ++ ":" ++ Text.padded 2 r.second

def text (t : Timestamp) : String := t.reading.text ++ fractionText t.reading.nanos ++ "Z"

-- Without the fraction.
def wholeText (t : Timestamp) : String := t.reading.text ++ "Z"

open Text (Scan natOf scanNat scanDigits skip)

-- A year has up to four digits, or a sign and any number of them.
def scanYear : Scan Int := fun cs =>
  match cs with
  | '-' :: cs => (scanNat cs).map fun (n, rest) => (-(n : Int), rest)
  | '+' :: cs => (scanNat cs).map fun (n, rest) => ((n : Int), rest)
  | cs        => (scanDigits 4 cs).map fun (n, rest) => ((n : Int), rest)

-- Blanks may stand in front of every number and every separator.
def scanPart : Scan Nat := fun cs => scanDigits 2 (Text.trimStart cs)

def skipPart (c : Char) (cs : List Char) : Option (List Char) := skip c (Text.trimStart cs)

-- Nine places count. Missing ones are zeros, and further ones are dropped.
def scanFraction : Scan Nat := fun cs =>
  match cs with
  | '.' :: cs =>
    let ds := cs.takeWhile Char.isDigit
    if ds.isEmpty then none
    else some (natOf ((ds ++ List.replicate 9 '0').take 9), cs.drop ds.length)
  | cs => some (0, cs)

-- Hours of two digits, then minutes of two digits, with colons or blanks between them.
def scanHoursMinutes : Scan Int := fun cs =>
  match cs with
  | h₁ :: h₂ :: cs =>
    if h₁.isDigit && h₂.isDigit then
      match cs.dropWhile (fun c => c = ':' || Text.isBlank c) with
      | m₁ :: m₂ :: cs =>
        if m₁.isDigit && m₂.isDigit && natOf [m₁, m₂] < 60 then
          some (natOf [h₁, h₂] * 60 + natOf [m₁, m₂], cs)
        else none
      | _ => none
    else none
  | _ => none

-- The zone in minutes: `Z`, `UTC` or a signed distance.
def scanZone : Scan Int := fun cs =>
  match Text.trimStart cs with
  | 'Z' :: cs | 'z' :: cs => some (0, cs)
  | '+' :: cs => scanHoursMinutes cs
  | '-' :: cs => (scanHoursMinutes cs).map fun (m, rest) => (-m, rest)
  | '−' :: cs => (scanHoursMinutes cs).map fun (m, rest) => (-m, rest)
  | u :: t :: c :: cs => if [u.toUpper, t.toUpper, c.toUpper] = ['U', 'T', 'C'] then some (0, cs) else none
  | _ => none

-- A date and a time with `T` or a blank between them.
def scanReading : Scan Reading := fun cs => do
  let (year, cs) ← scanYear (Text.trimStart cs)
  let cs ← skipPart '-' cs
  let (month, cs) ← scanPart cs
  let cs ← skipPart '-' cs
  let (day, cs) ← scanPart cs
  let cs ← match cs with
    | c :: cs => if c = 'T' || c = 't' || c = ' ' then some cs else none
    | []      => none
  let (hour, cs) ← scanPart cs
  let cs ← skipPart ':' cs
  let (minute, cs) ← scanPart cs
  let cs ← skipPart ':' cs
  let (second, cs) ← scanPart cs
  let (nanos, cs) ← scanFraction cs
  some (⟨⟨year, month, day⟩, hour, minute, second, nanos⟩, cs)

-- The point in time at which clocks that are `zone` minutes ahead of UTC show a reading.
def ofLocal? (r : Reading) (zone : Int) : Option Timestamp :=
  if r.Valid ∧ zone.natAbs < 1440 then
    if h : (r.behind zone).Valid then some ⟨r.behind zone, h⟩ else none
  else none

def parse (s : String) : Option Timestamp := do
  let (reading, cs) ← scanReading s.toList
  let (zone, cs) ← scanZone cs
  if cs.all Text.isBlank then ofLocal? reading zone else none

end Timestamp

end KernelRollout
