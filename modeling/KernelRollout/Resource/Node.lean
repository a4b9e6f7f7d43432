import KernelRollout.Resource.Metadata

namespace KernelRollout

-- Only the name, the labels and the version of a node matter here.
structure Node where
  metadata : Metadata := {}
deriving DecidableEq, Inhabited

namespace Node

instance : Resource Node where
  apiVersion   := "v1"
  kind         := "Node"
  metadata     := metadata
  withMetadata := fun n m => { n with metadata := m }

def labelled (name : String) (labels : Labels) : Node where
  metadata := { name := some name, labels := some labels }

-- The empty text for a node without a name.
def name (n : Node) : String := n.metadata.name.getD ""

def label? (n : Node) (key : String) : Option String := n.metadata.label? key

-- Sets a label, or removes it.
def changeLabel (labels : Labels) (key : String) : Option String → Labels
  | some v => labels.insert key v
  | none   => labels.erase key

-- Label edits by key: a value is set, and no value removes the label.
abbrev LabelChanges := Dict String (Option String)

def changeLabels (labels : Labels) (changes : LabelChanges) : Labels :=
  changes.toList.foldl (fun ls c => changeLabel ls c.1 c.2) labels

theorem get?_changeLabel (labels : Labels) (key k : String) (v : Option String) :
    (changeLabel labels key v).get? k = if k = key then v else labels.get? k := by
  cases v with
  | none => simp [changeLabel, Dict.get?_erase]
  | some v => simp [changeLabel, Dict.get?_insert]

end Node

namespace Json

open Fields (always whenSet whenFilled)

def node? : Read Node := fun v => do
  let f ← ofKind? Node v
  some { metadata := ← f.lenient "metadata" {} metadata? }

def node (n : Node) : Json := obj (typeFields Node ++ always "metadata" (metadata n.metadata))

end Json

end KernelRollout
