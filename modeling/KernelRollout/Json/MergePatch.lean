import KernelRollout.Json.Value

namespace KernelRollout.Json

def setField (name : String) (v : Json) : Fields → Fields
  | [] => [(name, v)]
  | (k, w) :: rest => if k = name then (name, v) :: rest else (k, w) :: setField name v rest

def dropField (name : String) (fields : Fields) : Fields := fields.filter (·.1 ≠ name)

def fieldsOf : Json → Fields
  | obj fields => fields
  | _          => []

mutual

-- An object of changes is merged field by field, `null` removes a field, and anything else replaces
-- what was there.
def mergePatch (target : Json) : Json → Json
  | obj changes => obj (mergeFields (fieldsOf target) changes)
  | patch       => patch

def mergeFields (fields : Fields) : List (String × Json) → Fields
  | [] => fields
  | (name, change) :: rest =>
    match change with
    | null => mergeFields (dropField name fields) rest
    | change =>
      mergeFields (setField name (mergePatch ((fields.lookup name).getD null) change) fields) rest

end

theorem lookup_setField (name k : String) (v : Json) (fields : Fields) :
    (setField name v fields).lookup k = if k = name then some v else fields.lookup k := by
  induction fields with
  | nil => simp [setField, Fields.lookup_cons_eq_ite]
  | cons e rest ih =>
    obtain ⟨k', w⟩ := e
    simp only [setField]
    split <;> grind [Fields.lookup_cons_eq_ite]

theorem lookup_dropField (name k : String) (fields : Fields) :
    (dropField name fields).lookup k = if k = name then none else fields.lookup k := by
  induction fields with
  | nil => simp [dropField]
  | cons e rest ih =>
    obtain ⟨k', w⟩ := e
    simp only [dropField, List.filter_cons] at ih ⊢
    split <;> grind [Fields.lookup_cons_eq_ite]

end KernelRollout.Json
