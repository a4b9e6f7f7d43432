import KernelRollout.Dict
import KernelRollout.Json.Value

namespace KernelRollout

namespace Schema

-- An optional field may also be null. A field with a fallback is never missing once it is stored,
-- and a list that may be left out stands for the empty one.
inductive Presence where
  | required
  | optional
  | fallback (value : Json)
  | omittable
deriving Inhabited

-- A field of a record. The description is for those who write the resource.
structure Property (σ : Type) where
  name        : String
  presence    : Presence
  schema      : σ
  description : Option String := none
deriving Inhabited

end Schema

-- What a field may hold.
inductive Schema where
  | text
  | time
  | flag
  | int32
  | textMap
  | list (item : Schema)
  | record (properties : List (Schema.Property Schema))
deriving Inhabited

namespace Schema

namespace Presence

def isRequired : Presence → Bool
  | required => true
  | _        => false

def keywords : Presence → Fields
  | required       => []
  | optional       => [("nullable", .bool true)]
  | fallback value => [("default", value)]
  | omittable      => []

end Presence

-- Keywords and properties are written in the order of their names.
def sorted (fields : Fields) : Json := .obj (Dict.ofList fields).toList

def requiredNames (ps : List (Property Schema)) : List String :=
  ((ps.filter (·.presence.isRequired)).map (·.name)).mergeSort (· ≤ ·)

mutual

def keywords : Schema → Fields
  | text      => [("type", .str "string")]
  | time      => [("type", .str "string"), ("format", .str "date-time")]
  | flag      => [("type", .str "boolean")]
  | int32     => [("type", .str "integer"), ("format", .str "int32")]
  | textMap   => [("type", .str "object"), ("additionalProperties", .obj [("type", .str "string")])]
  | list item => [("type", .str "array"), ("items", sorted (keywords item))]
  | record ps =>
    match properties ps with
    | []     => [("type", .str "object")]
    | fields =>
      [("type", .str "object"), ("properties", sorted fields)] ++
        Fields.whenFilled "required" .str (requiredNames ps)

def properties : List (Property Schema) → Fields
  | []      => []
  | p :: ps => (p.name, property p) :: properties ps

def property : Property Schema → Json
  | ⟨_, presence, schema, description⟩ =>
    sorted (keywords schema ++ presence.keywords ++ Fields.whenSet "description" .str description)

end

end Schema

end KernelRollout
