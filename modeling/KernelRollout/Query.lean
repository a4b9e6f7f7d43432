import KernelRollout.Resource.Metadata
import KernelRollout.Text.Cut

namespace KernelRollout

inductive LabelRequirement where
  | equals (key value : String)
  | present (key : String)
deriving DecidableEq

namespace LabelRequirement

def holds (labels : Labels) : LabelRequirement → Bool
  | equals k v => labels.get? k = some v
  | present k  => labels.contains k

def text : LabelRequirement → String
  | equals k v => k ++ "=" ++ v
  | present k  => k

-- A requirement with an equals sign asks for the value behind the first one.
def ofText (cs : List Char) : LabelRequirement :=
  match Text.cut ['='] cs with
  | some (k, v) => equals (String.ofList k) (String.ofList v)
  | none        => present (String.ofList cs)

end LabelRequirement

-- All requirements have to hold.
structure LabelQuery where
  requirements : List LabelRequirement
deriving DecidableEq

namespace LabelQuery

def everything : LabelQuery := ⟨[]⟩

-- Every label of the map, with its value.
def ofLabels (labels : Labels) : LabelQuery := ⟨labels.toList.map fun e => .equals e.1 e.2⟩

def hasKey (key : String) : LabelQuery := ⟨[.present key]⟩

def andEquals (q : LabelQuery) (key value : String) : LabelQuery :=
  ⟨q.requirements ++ [.equals key value]⟩

def andPresent (q : LabelQuery) (key : String) : LabelQuery := ⟨q.requirements ++ [.present key]⟩

-- An object without labels has the empty map of labels.
def selects (q : LabelQuery) (labels : Option Labels) : Bool :=
  q.requirements.all (·.holds (labels.getD .empty))

def text (q : LabelQuery) : String := ",".intercalate (q.requirements.map (·.text))

-- The pieces of a selector text between commas. The empty text has none.
def ofText (s : String) : LabelQuery :=
  match s.toList with
  | [] => everything
  | cs => ⟨(pieces cs).map .ofText⟩
where
  pieces : List Char → List (List Char)
    | [] => [[]]
    | c :: cs =>
      match pieces cs with
      | []      => [[c]]
      | p :: ps => if c = ',' then [] :: p :: ps else (c :: p) :: ps

theorem selects_everything (labels : Option Labels) : everything.selects labels := rfl

theorem selects_andEquals (q : LabelQuery) (k v : String) (labels : Option Labels) :
    (q.andEquals k v).selects labels =
      (q.selects labels && (LabelRequirement.equals k v).holds (labels.getD .empty)) := by
  simp [selects, andEquals]

theorem selects_andPresent (q : LabelQuery) (k : String) (labels : Option Labels) :
    (q.andPresent k).selects labels =
      (q.selects labels && (LabelRequirement.present k).holds (labels.getD .empty)) := by
  simp [selects, andPresent]

end LabelQuery

-- Without a namespace pods of all namespaces match, and without a node pods on any node.
structure PodQuery where
  ns     : Option String := none
  labels : LabelQuery := .everything
  node   : Option String := none
deriving DecidableEq

namespace PodQuery

-- Every pod on a node, in any namespace.
def onNode (node : String) : PodQuery := { node }

def fieldText (q : PodQuery) : Option String := q.node.map ("spec.nodeName=" ++ ·)

end PodQuery

end KernelRollout
