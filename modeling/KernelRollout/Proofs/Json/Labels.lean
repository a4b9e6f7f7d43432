import KernelRollout.Proofs.Json.Fields
import KernelRollout.Resource.Metadata

namespace KernelRollout

namespace Dict

variable {κ α : Type} [OrderedKey κ]

theorem lookup_eq_none {es : List (κ × α)} {k : κ} (h : k ∉ es.map (·.1)) : lookup k es = none := by
  induction es with
  | nil => rfl
  | cons e es hi =>
    rw [List.map_cons, List.mem_cons, not_or] at h
    rw [lookup, if_neg h.left, hi h.right]

theorem get?_foldl_insert (d : Dict κ α) {es : List (κ × α)} (h : (es.map (·.1)).Nodup) (k : κ) :
    (es.foldl (fun d e => d.insert e.1 e.2) d).get? k = (lookup k es).or (d.get? k) := by
  induction es generalizing d with
  | nil => rfl
  | cons e es hi =>
    rw [List.map_cons, List.nodup_cons] at h
    rw [List.foldl_cons, hi _ h.right, get?_insert, lookup]
    split
    case isTrue hk =>
      rw [hk, lookup_eq_none h.left]
      rfl
    case isFalse => rfl

theorem get?_ofList {es : List (κ × α)} (h : (es.map (·.1)).Nodup) (k : κ) :
    (ofList es).get? k = lookup k es := by
  rw [ofList, get?_foldl_insert _ h, get?_empty, Option.or_none]

theorem nodup_toList (d : Dict κ α) : (d.toList.map (·.1)).Nodup := by
  refine List.pairwise_map.mpr (d.sorted.imp fun hlt heq => ?_)
  rw [heq] at hlt
  exact OrderedKey.irrefl _ hlt

end Dict

namespace Json

variable {fields : Fields} {d : Labels} {es : List (String × String)}

def textFields (es : List (String × String)) : Fields := es.map fun e => (e.1, str e.2)

theorem map_fst_textFields (es : List (String × String)) : (textFields es).map (·.1) = es.map (·.1) := by
  simp [textFields]

theorem lookup_textFields (es : List (String × String)) (k : String) :
    (textFields es).lookup k = (Dict.lookup k es).map str := by
  induction es with
  | nil => rfl
  | cons e es hi =>
    rw [textFields] at hi ⊢
    rw [List.map_cons, Fields.lookup_cons_eq_ite, hi, Dict.lookup]
    split <;> rfl

theorem labels?_textFields (es : List (String × String)) :
    labels? (obj (textFields es)) = some (Dict.ofList es) := by
  have hread : (textFields es).mapM (fun f => (string? f.2).map (f.1, ·)) = some es := by
    induction es with
    | nil => rfl
    | cons e es hi =>
      rw [textFields] at hi ⊢
      rw [List.map_cons, List.mapM_cons, hi]
      rfl
  rw [labels?, dict?, hread, Option.map_some]

-- Fields with texts only come from a list of texts.
theorem exists_textFields (h : ∀ f ∈ fields, ∃ s, f.2 = str s) : ∃ es, fields = textFields es := by
  induction fields with
  | nil => exact ⟨[], rfl⟩
  | cons f fields hi =>
    have ⟨s, hs⟩ := h f List.mem_cons_self
    have ⟨es, hes⟩ := hi fun f hf => h f (List.mem_cons_of_mem _ hf)
    exact ⟨(f.1, s) :: es, by rw [hes, textFields, textFields, List.map_cons, ← hs]⟩

theorem eq_str_of_string? {v : Json} {s : String} (h : string? v = some s) : v = str s := by
  cases v with
  | str s' => exact congrArg str (Option.some.inj h)
  | null | bool | int | real | arr | obj => cases h

theorem exists_of_labels? (h : labels? (obj fields) = some d) : ∃ es, fields = textFields es := by
  obtain ⟨es, hread, -⟩ := Option.map_eq_some_iff.mp h
  refine exists_textFields ?_
  clear h
  induction fields generalizing es with
  | nil => simp
  | cons f fields hi =>
    simp only [List.mapM_cons, Option.bind_eq_bind, Option.bind_eq_some_iff,
      Option.map_eq_some_iff] at hread
    have ⟨_, ⟨s, hs, _⟩, es', hes', _⟩ := hread
    exact List.forall_mem_cons.mpr ⟨⟨s, eq_str_of_string? hs⟩, hi es' hes'⟩

-- Look-ups tell everything about an object whose names are distinct.
theorem lookup_of_mem (hnodup : (fields.map (·.1)).Nodup) {f : String × Json} (h : f ∈ fields) :
    fields.lookup f.1 = some f.2 := by
  induction fields with
  | nil => cases h
  | cons f' fields hi =>
    rw [List.map_cons, List.nodup_cons] at hnodup
    rw [Fields.lookup_cons_eq_ite]
    cases List.mem_cons.mp h
    case inl heq => rw [heq, if_pos rfl]
    case inr hmem =>
      have hne : f.1 ≠ f'.1 := fun he => hnodup.left (he ▸ List.mem_map_of_mem hmem)
      rw [if_neg hne, hi hnodup.right hmem]

-- An object whose names are distinct is read as the labels that give the same texts.
theorem labels?_eq_some_iff (hnodup : (fields.map (·.1)).Nodup) :
    labels? (obj fields) = some d ↔ ∀ k, fields.lookup k = (d.get? k).map str := by
  constructor
  case mp =>
    intro h k
    obtain ⟨es, rfl⟩ := exists_of_labels? h
    rw [labels?_textFields, Option.some.injEq] at h
    rw [map_fst_textFields] at hnodup
    rw [lookup_textFields, ← h, Dict.get?_ofList hnodup]
  case mpr =>
    intro h
    have htext : ∀ f ∈ fields, ∃ s, f.2 = str s := by
      intro f hf
      have hlookup := h f.1
      rw [lookup_of_mem hnodup hf] at hlookup
      have ⟨s, _, hs⟩ := Option.map_eq_some_iff.mp hlookup.symm
      exact ⟨s, hs.symm⟩
    obtain ⟨es, rfl⟩ := exists_textFields htext
    rw [map_fst_textFields] at hnodup
    rw [labels?_textFields, Option.some.injEq]
    refine Dict.ext_get? fun k => ?_
    rw [Dict.get?_ofList hnodup]
    have hk := h k
    rw [lookup_textFields] at hk
    exact Option.map_injective (fun _ _ => str.inj) hk

theorem labels?_labels (d : Labels) : labels? (labels d) = some d := by
  rw [labels, ofDict]
  refine (labels?_textFields d.toList).trans ?_
  refine congrArg some (Dict.ext_get? fun k => ?_)
  rw [Dict.get?_ofList d.nodup_toList]
  rfl

end Json

end KernelRollout
