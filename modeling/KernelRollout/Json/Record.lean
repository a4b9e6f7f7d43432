import KernelRollout.Json.Value
import KernelRollout.Dict

namespace KernelRollout

namespace Json

-- Reading fails as a whole when one part cannot be read.
abbrev Read (α : Type) := Json → Option α

def string? : Read String
  | str s => some s
  | _     => none

def bool? : Read Bool
  | bool b => some b
  | _      => none

-- A number without fraction and exponent, from `lo` to `hi`.
def intBetween? (lo hi : Int) : Read Int
  | int n => if lo ≤ n ∧ n ≤ hi then some n else none
  | _     => none

def int32? : Read Int32 := fun v => (intBetween? (-2147483648) 2147483647 v).map Int32.ofInt

def nat? : Read Nat
  | int n => if 0 ≤ n then some n.toNat else none
  | _     => none

def list? (read : Read α) : Read (List α)
  | arr items => items.mapM read
  | _         => none

def object? : Read Fields
  | obj fields => some fields
  | _          => none

-- A record may also be given as the array of its leading fields, in the order of `names`.
def record? (names : List String) : Read Fields
  | obj fields => some fields
  | arr items  => if items.length ≤ names.length then some (names.zip items) else none
  | _          => none

def dict? (read : Read α) : Read (Dict String α)
  | obj fields => (fields.mapM fun f => (read f.2).map (f.1, ·)).map Dict.ofList
  | _          => none

-- Absence and `null` both mean that the value is unset.
def nullable? (read : Read α) : Read (Option α)
  | null => some none
  | v    => (read v).map some

def ofDict (write : α → Json) (d : Dict String α) : Json :=
  obj (d.toList.map fun e => (e.1, write e.2))

end Json

namespace Fields

-- The field must be there.
def required (fields : Fields) (name : String) (read : Json.Read α) : Option α :=
  (fields.lookup name).bind read

-- The field may be missing or `null`.
def optional (fields : Fields) (name : String) (read : Json.Read α) : Option (Option α) :=
  match fields.lookup name with
  | none   => some none
  | some v => Json.nullable? read v

-- The field may be missing, but `null` is read like any other value.
def defaulted (fields : Fields) (name : String) (default : α) (read : Json.Read α) : Option α :=
  match fields.lookup name with
  | none   => some default
  | some v => read v

-- The field may be missing or `null`, and then has the default.
def lenient (fields : Fields) (name : String) (default : α) (read : Json.Read α) : Option α :=
  (fields.optional name read).map (·.getD default)

end Fields

end KernelRollout
