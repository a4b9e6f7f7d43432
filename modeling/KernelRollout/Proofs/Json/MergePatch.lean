import KernelRollout.Json.MergePatch
import KernelRollout.Proofs.Json.Labels
import KernelRollout.Resource.Node

namespace KernelRollout.Json

variable {fields : Fields} {d : Labels} {name : String}

theorem keys_setField (name : String) (v : Json) (fields : Fields) :
    (setField name v fields).map (·.1) =
      if name ∈ fields.map (·.1) then fields.map (·.1) else fields.map (·.1) ++ [name] := by
  induction fields with
  | nil => rfl
  | cons f fields hi =>
    rw [setField]
    split
    case isTrue h => simp [h]
    case isFalse h =>
      rw [List.map_cons, hi]
      grind

theorem nodup_setField (h : (fields.map (·.1)).Nodup) (name : String) (v : Json) :
    ((setField name v fields).map (·.1)).Nodup := by
  rw [keys_setField]
  split
  case isTrue => exact h
  case isFalse hname => exact List.nodup_append.mpr ⟨h, by simp, by grind⟩

theorem mergeFields_str (fields : Fields) (name s : String) (changes : List (String × Json)) :
    mergeFields fields ((name, str s) :: changes) =
      mergeFields (setField name (str s) fields) changes := by
  simp [mergeFields, mergePatch]

-- Fields that stand for labels. No name is there twice.
structure LabelFields (fields : Fields) (d : Labels) : Prop where
  nodup  : (fields.map (·.1)).Nodup
  lookup : ∀ k, fields.lookup k = (d.get? k).map str

namespace LabelFields

theorem empty : LabelFields [] .empty := ⟨.nil, fun _ => rfl⟩

theorem of_labels? (hnodup : (fields.map (·.1)).Nodup) (h : labels? (obj fields) = some d) :
    LabelFields fields d :=
  ⟨hnodup, (labels?_eq_some_iff hnodup).mp h⟩

theorem labels? (h : LabelFields fields d) : Json.labels? (obj fields) = some d :=
  (labels?_eq_some_iff h.nodup).mpr h.lookup

theorem insert (h : LabelFields fields d) (name s : String) :
    LabelFields (setField name (str s) fields) (d.insert name s) where
  nodup := nodup_setField h.nodup name _
  lookup k := by
    rw [lookup_setField, Dict.get?_insert, h.lookup]
    split <;> rfl

theorem erase (h : LabelFields fields d) (name : String) :
    LabelFields (dropField name fields) (d.erase name) where
  nodup := h.nodup.sublist (List.filter_sublist.map _)
  lookup k := by
    rw [lookup_dropField, Dict.get?_erase, h.lookup]
    split <;> rfl

-- The changes do to the fields what they do to the labels that these stand for, one after the
-- other.
theorem mergeFields (h : LabelFields fields d) (changes : List (String × Option String)) :
    LabelFields (mergeFields fields (changes.map fun c => (c.1, option str c.2)))
      (changes.foldl (fun d c => Node.changeLabel d c.1 c.2) d) := by
  induction changes generalizing fields d with
  | nil => rwa [List.map_nil, Json.mergeFields]
  | cons c changes hi =>
    obtain ⟨name, v⟩ := c
    rw [List.map_cons, List.foldl_cons]
    cases v with
    | none =>
      rw [option, Json.mergeFields]
      exact hi (h.erase name)
    | some s =>
      rw [option, mergeFields_str]
      exact hi (h.insert name s)

end LabelFields

end KernelRollout.Json
