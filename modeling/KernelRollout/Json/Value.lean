namespace KernelRollout

-- Fields are kept in the order in which they are written. A number without fraction and exponent is
-- an integer, and any other number is kept as it is written.
inductive Json where
  | null
  | bool (b : Bool)
  | int (n : Int)
  | real (literal : String)
  | str (s : String)
  | arr (items : List Json)
  | obj (fields : List (String × Json))
deriving Inhabited

abbrev Fields := List (String × Json)

namespace Json

def isNull : Json → Bool
  | null => true
  | _    => false

def get? (name : String) : Json → Option Json
  | obj fields => fields.lookup name
  | _          => none

def nat (n : Nat) : Json := int n

def int32 (n : Int32) : Json := int n.toInt

def strings (xs : List String) : Json := arr (xs.map str)

def option (write : α → Json) : Option α → Json
  | none   => null
  | some a => write a

end Json

namespace Fields

theorem lookup_cons_eq_ite (k name : String) (v : Json) (rest : Fields) :
    List.lookup k ((name, v) :: rest) = if k = name then some v else List.lookup k rest := by
  by_cases h : k = name
  · subst h; simp
  · simp [List.lookup_cons, beq_eq_false_iff_ne.mpr h, h]

-- A field that is always written.
def always (name : String) (v : Json) : Fields := [(name, v)]

-- A field that is left out when it is unset.
def whenSet (name : String) (write : α → Json) : Option α → Fields
  | none   => []
  | some a => [(name, write a)]

-- A list that is left out when it is empty.
def whenFilled (name : String) (write : α → Json) : List α → Fields
  | [] => []
  | xs => [(name, .arr (xs.map write))]

end Fields

end KernelRollout
