import KernelRollout.Json.Record
import KernelRollout.Time.Timestamp

namespace KernelRollout

abbrev Labels := Dict String String

-- The name of an object in its namespace.
structure Identity where
  ns   : String
  name : String
deriving DecidableEq, Repr

namespace Identity

-- By namespace, then by name.
def lt (a b : Identity) : Prop := a.ns < b.ns ∨ (a.ns = b.ns ∧ a.name < b.name)

instance : LT Identity := ⟨lt⟩

instance (a b : Identity) : Decidable (a < b) := by
  change Decidable (lt a b)
  unfold lt
  infer_instance

instance : OrderedKey Identity where
  decidableEq := inferInstance
  decidableLT := inferInstance
  irrefl a h := by
    rcases h with h | ⟨_, h⟩
    · exact String.lt_irrefl _ h
    · exact String.lt_irrefl _ h
  trans {a b c} h₁ h₂ := by
    rcases h₁ with h₁ | ⟨e₁, h₁⟩ <;> rcases h₂ with h₂ | ⟨e₂, h₂⟩
    · exact .inl (String.lt_trans h₁ h₂)
    · exact .inl (e₂ ▸ h₁)
    · exact .inl (e₁ ▸ h₂)
    · exact .inr ⟨e₁.trans e₂, String.lt_trans h₁ h₂⟩
  connected {a b} h₁ h₂ := by
    have ⟨hn₁, hm₁⟩ := not_or.mp h₁
    have ⟨hn₂, hm₂⟩ := not_or.mp h₂
    have e : a.ns = b.ns := OrderedKey.connected hn₁ hn₂
    have e' : a.name = b.name :=
      OrderedKey.connected (fun h => hm₁ ⟨e, h⟩) (fun h => hm₂ ⟨e.symm, h⟩)
    cases a; cases b; simp_all

def text (i : Identity) : String := i.ns ++ "/" ++ i.name

end Identity

structure OwnerReference where
  apiVersion         : String
  kind               : String
  name               : String
  uid                : String
  controller         : Option Bool
  blockOwnerDeletion : Option Bool
deriving DecidableEq

-- What every object of a cluster carries.
structure Metadata where
  name              : Option String := none
  ns                : Option String := none
  uid               : Option String := none
  resourceVersion   : Option String := none
  labels            : Option Labels := none
  annotations       : Option Labels := none
  deletionTimestamp : Option Timestamp := none
  ownerReferences   : Option (List OwnerReference) := none
deriving DecidableEq, Inhabited

namespace Metadata

-- A missing namespace or name reads as the empty text.
def identity (m : Metadata) : Identity := ⟨m.ns.getD "", m.name.getD ""⟩

def terminating (m : Metadata) : Bool := m.deletionTimestamp.isSome

def label? (m : Metadata) (key : String) : Option String := m.labels.bind (·.get? key)

end Metadata

-- Objects of a kind that the cluster stores.
class Resource (α : Type) where
  apiVersion   : String
  kind         : String
  metadata     : α → Metadata
  withMetadata : α → Metadata → α

namespace Json

open Fields (always whenSet whenFilled)

def labels? : Read Labels := dict? string?

def labels (d : Labels) : Json := ofDict str d

def timestamp? : Read Timestamp
  | str s => Timestamp.parse s
  | _     => none

def timestamp (t : Timestamp) : Json := str t.text

def ownerReference? : Read OwnerReference := fun v => do
  let f ← object? v
  some {
    apiVersion         := ← f.lenient "apiVersion" "" string?
    kind               := ← f.lenient "kind" "" string?
    name               := ← f.lenient "name" "" string?
    uid                := ← f.lenient "uid" "" string?
    controller         := ← f.optional "controller" bool?
    blockOwnerDeletion := ← f.optional "blockOwnerDeletion" bool?
  }

def ownerReference (o : OwnerReference) : Json :=
  obj <|
    always "apiVersion" (str o.apiVersion) ++
    whenSet "blockOwnerDeletion" bool o.blockOwnerDeletion ++
    whenSet "controller" bool o.controller ++
    always "kind" (str o.kind) ++
    always "name" (str o.name) ++
    always "uid" (str o.uid)

def metadata? : Read Metadata := fun v => do
  let f ← object? v
  some {
    name              := ← f.optional "name" string?
    ns                := ← f.optional "namespace" string?
    uid               := ← f.optional "uid" string?
    resourceVersion   := ← f.optional "resourceVersion" string?
    labels            := ← f.optional "labels" labels?
    annotations       := ← f.optional "annotations" labels?
    deletionTimestamp := ← f.optional "deletionTimestamp" timestamp?
    ownerReferences   := ← f.optional "ownerReferences" (list? ownerReference?)
  }

def metadata (m : Metadata) : Json :=
  obj <|
    whenSet "annotations" labels m.annotations ++
    whenSet "deletionTimestamp" (fun t => str t.wholeText) m.deletionTimestamp ++
    whenSet "labels" labels m.labels ++
    whenSet "name" str m.name ++
    whenSet "namespace" str m.ns ++
    whenSet "ownerReferences" (fun os => arr (os.map ownerReference)) m.ownerReferences ++
    whenSet "resourceVersion" str m.resourceVersion ++
    whenSet "uid" str m.uid

-- The fields of an object of the kind. Where the kind is named it must be the right one.
def ofKind? (α : Type) [Resource α] : Read Fields := fun v => do
  let f ← object? v
  let version ← f.defaulted "apiVersion" (Resource.apiVersion α) string?
  let kind ← f.defaulted "kind" (Resource.kind α) string?
  if version = Resource.apiVersion α ∧ kind = Resource.kind α then some f else none

def typeFields (α : Type) [Resource α] : Fields :=
  always "apiVersion" (str (Resource.apiVersion α)) ++ always "kind" (str (Resource.kind α))

end Json

end KernelRollout
