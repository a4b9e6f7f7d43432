import KernelRollout.Json.Record

namespace KernelRollout

namespace Json

variable {α : Type} {read : Read α} {write : α → Json}

-- What is written is never taken for an unset value, and is read as the value that it was written for.
class RoundTrips (read : Read α) (write : α → Json) : Prop where
  read_write : ∀ a, read (write a) = some a
  isNull_write : ∀ a, (write a).isNull = false

theorem nullable?_write [h : RoundTrips read write] (a : α) : nullable? read (write a) = some (some a) := by
  have hread := h.read_write a
  have hnull := h.isNull_write a
  generalize write a = v at hread hnull
  cases v with
  | null => cases hnull
  | bool | int | real | str | arr | obj => simp only [nullable?, hread, Option.map_some]

@[simp]
theorem list?_map [h : RoundTrips read write] (xs : List α) :
    list? read (arr (xs.map write)) = some xs := by
  rw [list?]
  induction xs with
  | nil => rfl
  | cons x xs hi => rw [List.map_cons, List.mapM_cons, h.read_write, hi]; rfl

@[simp]
theorem string?_str (s : String) : string? (str s) = some s := rfl

instance : RoundTrips string? str := ⟨string?_str, fun _ => rfl⟩

instance : RoundTrips bool? bool := ⟨fun _ => rfl, fun _ => rfl⟩

instance : RoundTrips int32? int32 where
  read_write n := by
    have hlo : -2147483648 ≤ n.toInt := n.le_toInt
    have hhi : n.toInt < 2147483648 := n.toInt_lt
    rw [int32?, int32, intBetween?, if_pos ⟨hlo, by omega⟩, Option.map_some, n.ofInt_toInt]
  isNull_write _ := rfl

end Json

namespace Fields

open Json (RoundTrips)

variable {α : Type} {read : Json.Read α} {write : α → Json} {name k : String} {f g : Fields} {v : Json}
variable {o : Option α} {xs : List α}

@[simp]
theorem lookup_always : (always name v).lookup k = if k = name then some v else none := by
  rw [always, lookup_cons_eq_ite, List.lookup_nil]

@[simp]
theorem lookup_whenSet : (whenSet name write o).lookup k = if k = name then o.map write else none := by
  cases o with
  | none => simp [whenSet]
  | some a => rw [whenSet, lookup_cons_eq_ite, List.lookup_nil, Option.map_some]

@[simp]
theorem lookup_whenFilled :
    (whenFilled name write xs).lookup k =
      if k = name ∧ xs ≠ [] then some (.arr (xs.map write)) else none := by
  cases xs with
  | nil => simp [whenFilled]
  | cons x xs => simp [whenFilled, lookup_cons_eq_ite]

@[simp]
theorem required_always_append : (always name v ++ g).required name read = read v := by
  simp [required, List.lookup_append]

@[simp]
theorem required_always : (always name v).required name read = read v := by
  simp [required]

@[simp]
theorem defaulted_always_append {default : α} :
    (always name v ++ g).defaulted name default read = read v := by
  simp [defaulted, List.lookup_append]

@[simp]
theorem defaulted_always {default : α} : (always name v).defaulted name default read = read v := by
  simp [defaulted]

@[simp]
theorem optional_always_append :
    (always name v ++ g).optional name read = Json.nullable? read v := by
  simp [optional, List.lookup_append]

@[simp]
theorem optional_whenSet_append [RoundTrips read write] (hg : g.lookup name = none) :
    (whenSet name write o ++ g).optional name read = some o := by
  cases o <;> simp [optional, List.lookup_append, hg, Json.nullable?_write]

@[simp]
theorem optional_whenSet [RoundTrips read write] :
    (whenSet name write o).optional name read = some o := by
  cases o <;> simp [optional, Json.nullable?_write]

@[simp]
theorem defaulted_whenFilled_append [RoundTrips read write] (hg : g.lookup name = none) :
    (whenFilled name write xs ++ g).defaulted name [] (Json.list? read) = some xs := by
  cases xs with
  | nil => simp [defaulted, List.lookup_append, hg]
  | cons x xs => simp [defaulted, List.lookup_append, -List.map_cons]

@[simp]
theorem defaulted_whenFilled [RoundTrips read write] :
    (whenFilled name write xs).defaulted name [] (Json.list? read) = some xs := by
  cases xs with
  | nil => simp [defaulted]
  | cons x xs => simp [defaulted, -List.map_cons]

@[simp]
theorem required_append_of_none (hf : f.lookup name = none) :
    (f ++ g).required name read = g.required name read := by
  simp [required, List.lookup_append, hf]

theorem optional_of_none (hf : f.lookup name = none) : f.optional name read = some none := by
  rw [optional, hf]

@[simp]
theorem optional_append_of_none (hf : f.lookup name = none) :
    (f ++ g).optional name read = g.optional name read := by
  simp [optional, List.lookup_append, hf]

@[simp]
theorem defaulted_append_of_none {default : α} (hf : f.lookup name = none) :
    (f ++ g).defaulted name default read = g.defaulted name default read := by
  simp [defaulted, List.lookup_append, hf]

theorem optional_congr (h : g.lookup name = f.lookup name) :
    g.optional name read = f.optional name read := by
  rw [optional, optional, h]

theorem optional_eq_some {a : α} (h : f.optional name read = some (some a)) :
    ∃ v, f.lookup name = some v ∧ read v = some a := by
  rw [optional] at h
  split at h
  case h_1 => cases h
  case h_2 v hv =>
    refine ⟨v, hv, ?_⟩
    cases v with
    | null => cases h
    | bool | int | real | str | arr | obj => simpa [Json.nullable?] using h

theorem optional_eq_none (h : f.optional name read = some none) : (f.lookup name).getD .null = .null := by
  rw [optional] at h
  split at h
  case h_1 hnone => rw [hnone, Option.getD_none]
  case h_2 v hv =>
    rw [hv, Option.getD_some]
    cases v with
    | null => rfl
    | bool | int | real | str | arr | obj => simp [Json.nullable?] at h

theorem defaulted_congr {default : α} (h : g.lookup name = f.lookup name) :
    g.defaulted name default read = f.defaulted name default read := by
  rw [defaulted, defaulted, h]

end Fields

end KernelRollout
