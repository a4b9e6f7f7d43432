import KernelRollout.Dict
import Mathlib.Data.List.Forall2

namespace KernelRollout.Dict

variable {κ α β γ : Type} [OrderedKey κ] {r : κ → α → β → Prop} {d : Dict κ α} {d' : Dict κ β}
variable {k : κ} {a : α} {b : β}

-- The same keys, and at each key values that go together.
def Pointwise (r : κ → α → β → Prop) (d : Dict κ α) (d' : Dict κ β) : Prop :=
  ∀ k, Option.Rel (r k) (d.get? k) (d'.get? k)

theorem get?_map (d : Dict κ α) (f : α → γ) (k : κ) : (d.map f).get? k = (d.get? k).map f := by
  apply Option.ext
  intro c
  rw [get?_eq_some_iff, Option.map_eq_some_iff]
  simp [map, get?_eq_some_iff]

theorem keys_map (d : Dict κ α) (f : α → γ) : (d.map f).keys = d.keys := by
  simp [keys, map, Function.comp_def]

namespace Pointwise

theorem refl {r : κ → α → α → Prop} (h : ∀ k a, r k a a) : d.Pointwise r d := by
  intro k
  cases d.get? k with
  | none => exact .none
  | some a => exact .some (h k a)

theorem of_get? (h : d.Pointwise r d') (ha : d.get? k = some a) (hb : d'.get? k = some b) : r k a b := by
  have hk := h k
  rw [ha, hb] at hk
  exact Option.rel_some_some.mp hk

theorem get?_eq_none (h : d.Pointwise r d') : d'.get? k = none ↔ d.get? k = none := by
  have hk := h k
  generalize d.get? k = x, d'.get? k = x' at hk
  cases hk <;> simp

theorem exists_of_get? (h : d.Pointwise r d') (ha : d.get? k = some a) :
    ∃ b, d'.get? k = some b ∧ r k a b := by
  cases hb : d'.get? k with
  | none =>
    rw [h.get?_eq_none, ha] at hb
    cases hb
  | some b => exact ⟨b, rfl, h.of_get? ha hb⟩

theorem of_forall (hnone : ∀ k, d'.get? k = none ↔ d.get? k = none)
    (hsome : ∀ k a b, d.get? k = some a → d'.get? k = some b → r k a b) : d.Pointwise r d' := by
  intro k
  have hnone := hnone k
  have hsome := hsome k
  cases hb : d'.get? k with
  | none => exact hnone.mp hb ▸ .none
  | some b =>
    have ⟨a, ha⟩ := Option.ne_none_iff_exists'.mp (mt hnone.mpr (by simp [hb]))
    exact ha ▸ .some (hsome a b ha hb)

theorem trans {r' : κ → β → γ → Prop} {r'' : κ → α → γ → Prop} {d'' : Dict κ γ}
    (h : d.Pointwise r d') (h' : d'.Pointwise r' d'')
    (hr : ∀ k a b c, r k a b → r' k b c → r'' k a c) : d.Pointwise r'' d'' := by
  refine of_forall (fun k => h'.get?_eq_none.trans h.get?_eq_none) fun k a c ha hc => ?_
  have ⟨b, hb, hab⟩ := h.exists_of_get? ha
  exact hr k a b c hab (h'.of_get? hb hc)

theorem mono {r' : κ → α → β → Prop} (h : d.Pointwise r d')
    (hr : ∀ k a b, d.get? k = some a → d'.get? k = some b → r k a b → r' k a b) :
    d.Pointwise r' d' :=
  of_forall (fun _ => h.get?_eq_none) fun k a b ha hb => hr k a b ha hb (h.of_get? ha hb)

theorem insert (h : d.Pointwise r d') (hr : r k a b) : (d.insert k a).Pointwise r (d'.insert k b) := by
  intro j
  rw [get?_insert, get?_insert]
  split
  case isTrue hj => exact .some (hj ▸ hr)
  case isFalse => exact h j

-- A value changes that was there before.
theorem insert_right (h : d.Pointwise r d') (ha : d.get? k = some a) (hr : r k a b) :
    d.Pointwise r (d'.insert k b) := by
  intro j
  rw [get?_insert]
  split
  case isTrue hj => exact hj ▸ ha ▸ .some hr
  case isFalse => exact h j

theorem insert_left (h : d.Pointwise r d') (hb : d'.get? k = some b) (hr : r k a b) :
    (d.insert k a).Pointwise r d' := by
  intro j
  rw [get?_insert]
  split
  case isTrue hj => exact hj ▸ hb ▸ .some hr
  case isFalse => exact h j

theorem keys_eq (h : d.Pointwise r d') : d'.keys = d.keys := by
  have hunit : d'.map (fun _ => ()) = d.map fun _ => () := by
    refine ext_get? fun k => ?_
    rw [get?_map, get?_map]
    have hnone : d'.get? k = none ↔ d.get? k = none := h.get?_eq_none
    cases ha : d.get? k <;> cases hb : d'.get? k <;> simp [ha, hb] at hnone ⊢
  have hkeys := congrArg keys hunit
  rwa [keys_map, keys_map] at hkeys

-- Entries stand side by side, because they are sorted by keys.
theorem forall₂_entries (h : d.Pointwise r d') :
    List.Forall₂ (fun e e' => e'.1 = e.1 ∧ r e.1 e.2 e'.2) d.entries d'.entries := by
  have hkeys : d'.entries.map (·.1) = d.entries.map (·.1) := h.keys_eq
  refine List.forall₂_iff_get.mpr ⟨by simpa using (congrArg List.length hkeys).symm, fun i hi hi' => ?_⟩
  have hkey : d'.entries[i].1 = d.entries[i].1 := by
    simpa [hi, hi'] using congrArg (·[i]?) hkeys
  have ha : d.get? d.entries[i].1 = some d.entries[i].2 := get?_eq_some_iff.mpr (List.getElem_mem hi)
  have hb : d'.get? d'.entries[i].1 = some d'.entries[i].2 := get?_eq_some_iff.mpr (List.getElem_mem hi')
  exact ⟨hkey, h.of_get? ha (hkey ▸ hb)⟩

end Pointwise

end KernelRollout.Dict
