namespace KernelRollout

-- A strict total order that can be decided.
class OrderedKey (κ : Type) extends LT κ where
  decidableEq : DecidableEq κ
  decidableLT : DecidableRel (α := κ) (· < ·)
  irrefl : ∀ a : κ, ¬a < a
  trans : ∀ {a b c : κ}, a < b → b < c → a < c
  connected : ∀ {a b : κ}, ¬a < b → ¬b < a → a = b

instance (priority := low) OrderedKey.instDecidableEq {κ : Type} [OrderedKey κ] : DecidableEq κ :=
  OrderedKey.decidableEq

instance (priority := low) OrderedKey.instDecidableLT {κ : Type} [OrderedKey κ] :
    DecidableRel (α := κ) (· < ·) :=
  OrderedKey.decidableLT

-- Strings are ordered by code point.
instance : OrderedKey String where
  decidableEq := inferInstance
  decidableLT := inferInstance
  irrefl := String.lt_irrefl
  trans := String.lt_trans
  connected h₁ h₂ := String.le_antisymm (String.not_lt.mp h₂) (String.not_lt.mp h₁)

-- Keys are in increasing order, so that a dictionary has one representation (`ext_get?`).
structure Dict (κ α : Type) [OrderedKey κ] where
  entries : List (κ × α)
  sorted  : entries.Pairwise (·.1 < ·.1)

namespace Dict

variable {κ α β : Type} [OrderedKey κ]

def lookup (k : κ) : List (κ × α) → Option α
  | [] => none
  | (k', v) :: rest => if k = k' then some v else lookup k rest

def insertEntry (k : κ) (v : α) : List (κ × α) → List (κ × α)
  | [] => [(k, v)]
  | (k', v') :: rest =>
    if k < k' then (k, v) :: (k', v') :: rest
    else if k = k' then (k, v) :: rest
    else (k', v') :: insertEntry k v rest

theorem mem_insertEntry {k : κ} {v : α} {es : List (κ × α)} {e : κ × α}
    (h : e ∈ insertEntry k v es) : e = (k, v) ∨ e ∈ es := by
  induction es with
  | nil => simp_all [insertEntry]
  | cons e' rest ih =>
    obtain ⟨k', v'⟩ := e'
    simp only [insertEntry] at h
    split at h
    · simp_all
    · split at h
      · rcases List.mem_cons.mp h with h | h <;> simp_all
      · rcases List.mem_cons.mp h with h | h
        · simp_all
        · rcases ih h with h | h <;> simp_all

theorem sorted_insertEntry (k : κ) (v : α) {es : List (κ × α)}
    (h : es.Pairwise (·.1 < ·.1)) : (insertEntry k v es).Pairwise (·.1 < ·.1) := by
  induction es with
  | nil => simp [insertEntry]
  | cons e rest ih =>
    obtain ⟨k', v'⟩ := e
    have ⟨h₁, h₂⟩ := List.pairwise_cons.mp h
    simp only [insertEntry]
    split
    case isTrue hlt =>
      refine List.pairwise_cons.mpr ⟨fun e he => ?_, h⟩
      rcases List.mem_cons.mp he with rfl | he
      · exact hlt
      · exact OrderedKey.trans hlt (h₁ e he)
    case isFalse hlt =>
      split
      case isTrue heq =>
        subst heq
        exact List.pairwise_cons.mpr ⟨h₁, h₂⟩
      case isFalse hne =>
        refine List.pairwise_cons.mpr ⟨fun e he => ?_, ih h₂⟩
        rcases mem_insertEntry he with rfl | he
        · by_cases hgt : k' < k
          · exact hgt
          · exact absurd (OrderedKey.connected hlt hgt) hne
        · exact h₁ e he

theorem lookup_insertEntry (k j : κ) (v : α) (es : List (κ × α)) :
    lookup j (insertEntry k v es) = if j = k then some v else lookup j es := by
  induction es with
  | nil => simp [insertEntry, lookup]
  | cons e rest ih =>
    obtain ⟨k', v'⟩ := e
    simp only [insertEntry]
    split
    · simp [lookup]
    · split
      · rename_i h; subst h; simp only [lookup]; split <;> rfl
      · simp only [lookup, ih]
        split
        · rename_i hne h; subst h; simp [Ne.symm hne]
        · rfl

theorem lookup_eq_some_iff {es : List (κ × α)} (h : es.Pairwise (·.1 < ·.1)) {k : κ} {v : α} :
    lookup k es = some v ↔ (k, v) ∈ es := by
  induction es with
  | nil => simp [lookup]
  | cons e rest ih =>
    obtain ⟨k', v'⟩ := e
    have ⟨h₁, h₂⟩ := List.pairwise_cons.mp h
    simp only [lookup]
    split
    case isTrue heq =>
      subst heq
      constructor
      · intro h; simp_all
      · intro hm
        rcases List.mem_cons.mp hm with hm | hm
        · simp_all
        · exact absurd (h₁ _ hm) (OrderedKey.irrefl _)
    case isFalse hne =>
      rw [ih h₂]
      constructor
      · exact fun hm => List.mem_cons_of_mem _ hm
      · intro hm
        rcases List.mem_cons.mp hm with hm | hm
        · simp_all
        · exact hm

def empty : Dict κ α := ⟨[], .nil⟩

instance : Inhabited (Dict κ α) := ⟨empty⟩

def get? (d : Dict κ α) (k : κ) : Option α := lookup k d.entries

def contains (d : Dict κ α) (k : κ) : Bool := (d.get? k).isSome

def insert (d : Dict κ α) (k : κ) (v : α) : Dict κ α :=
  ⟨insertEntry k v d.entries, sorted_insertEntry k v d.sorted⟩

def filter (d : Dict κ α) (p : κ → α → Bool) : Dict κ α :=
  ⟨d.entries.filter fun e => p e.1 e.2, d.sorted.filter _⟩

def erase (d : Dict κ α) (k : κ) : Dict κ α := d.filter fun j _ => j ≠ k

def map (f : α → β) (d : Dict κ α) : Dict κ β :=
  ⟨d.entries.map fun e => (e.1, f e.2), List.pairwise_map.mpr d.sorted⟩

-- The value at a key, changed; other keys and an absent key are left alone.
def modify (d : Dict κ α) (k : κ) (f : α → α) : Dict κ α :=
  match d.get? k with
  | none   => d
  | some v => d.insert k (f v)

-- A later entry of the list wins.
def ofList (es : List (κ × α)) : Dict κ α :=
  es.foldl (fun d e => d.insert e.1 e.2) empty

def toList (d : Dict κ α) : List (κ × α) := d.entries

def keys (d : Dict κ α) : List κ := d.entries.map (·.1)

def values (d : Dict κ α) : List α := d.entries.map (·.2)

def size (d : Dict κ α) : Nat := d.entries.length

theorem get?_eq_some_iff {d : Dict κ α} {k : κ} {v : α} : d.get? k = some v ↔ (k, v) ∈ d.entries :=
  lookup_eq_some_iff d.sorted

@[simp]
theorem get?_empty (k : κ) : (empty : Dict κ α).get? k = none := rfl

theorem get?_insert (d : Dict κ α) (k j : κ) (v : α) :
    (d.insert k v).get? j = if j = k then some v else d.get? j :=
  lookup_insertEntry k j v d.entries

@[simp]
theorem get?_insert_self (d : Dict κ α) (k : κ) (v : α) : (d.insert k v).get? k = some v := by
  simp [get?_insert]

theorem get?_insert_other (d : Dict κ α) {k j : κ} (v : α) (h : j ≠ k) :
    (d.insert k v).get? j = d.get? j := by
  simp [get?_insert, h]

theorem get?_filter (d : Dict κ α) (p : κ → α → Bool) (k : κ) :
    (d.filter p).get? k = (d.get? k).filter (p k) := by
  apply Option.ext
  intro v
  rw [get?_eq_some_iff, Option.filter_eq_some_iff, get?_eq_some_iff]
  simp [filter]

theorem get?_erase (d : Dict κ α) (k j : κ) :
    (d.erase k).get? j = if j = k then none else d.get? j := by
  rw [erase, get?_filter]
  by_cases h : j = k <;> cases d.get? j <;> simp [Option.filter, h]

@[simp]
theorem get?_erase_self (d : Dict κ α) (k : κ) : (d.erase k).get? k = none := by
  simp [get?_erase]

theorem get?_erase_other (d : Dict κ α) {k j : κ} (h : j ≠ k) :
    (d.erase k).get? j = d.get? j := by
  simp [get?_erase, h]

theorem get?_modify (d : Dict κ α) (k j : κ) (f : α → α) :
    (d.modify k f).get? j = if j = k then (d.get? j).map f else d.get? j := by
  unfold modify
  split
  case h_1 h => split <;> simp_all
  case h_2 v h => rw [get?_insert]; split <;> simp_all

-- Sorted lists with the same members are the same list.
theorem eq_of_sorted_of_mem_iff {es₁ es₂ : List (κ × α)} (h₁ : es₁.Pairwise (·.1 < ·.1))
    (h₂ : es₂.Pairwise (·.1 < ·.1)) (h : ∀ e, e ∈ es₁ ↔ e ∈ es₂) : es₁ = es₂ := by
  induction es₁ generalizing es₂ with
  | nil =>
    cases es₂ with
    | nil => rfl
    | cons e _ => simpa using h e
  | cons a r₁ ih =>
    cases es₂ with
    | nil => simpa using h a
    | cons b r₂ =>
      have ⟨ha, hr₁⟩ := List.pairwise_cons.mp h₁
      have ⟨hb, hr₂⟩ := List.pairwise_cons.mp h₂
      have hab : a = b := by
        rcases List.mem_cons.mp ((h a).mp (by simp)) with hm | hm
        · exact hm
        · rcases List.mem_cons.mp ((h b).mpr (by simp)) with hm' | hm'
          · exact hm'.symm
          · exact absurd (OrderedKey.trans (ha b hm') (hb a hm)) (OrderedKey.irrefl _)
      subst hab
      refine congrArg (a :: ·) (ih hr₁ hr₂ fun e => ?_)
      constructor
      · intro he
        rcases List.mem_cons.mp ((h e).mp (List.mem_cons_of_mem _ he)) with rfl | he'
        · exact absurd (ha e he) (OrderedKey.irrefl _)
        · exact he'
      · intro he
        rcases List.mem_cons.mp ((h e).mpr (List.mem_cons_of_mem _ he)) with rfl | he'
        · exact absurd (hb e he) (OrderedKey.irrefl _)
        · exact he'

theorem ext_get? {d₁ d₂ : Dict κ α} (h : ∀ k, d₁.get? k = d₂.get? k) : d₁ = d₂ := by
  obtain ⟨es₁, s₁⟩ := d₁
  obtain ⟨es₂, s₂⟩ := d₂
  have : es₁ = es₂ := by
    apply eq_of_sorted_of_mem_iff s₁ s₂
    rintro ⟨k, v⟩
    rw [← lookup_eq_some_iff s₁, ← lookup_eq_some_iff s₂]
    exact iff_of_eq (congrArg (· = some v) (h k))
  subst this
  rfl

instance [DecidableEq α] : DecidableEq (Dict κ α) := fun d₁ d₂ =>
  if h : d₁.entries = d₂.entries then
    isTrue (by cases d₁; cases d₂; simp_all)
  else
    isFalse (by rintro rfl; exact h rfl)

end Dict

end KernelRollout
