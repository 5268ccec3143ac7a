import BuildFleet.Json.Record

/-!
# Schemas of custom resources

A schema says which values a field of a custom resource admits, in the way that the API
server understands it. It is written as a structural OpenAPI schema.
-/

namespace BuildFleet

/-- Which values a field admits. -/
inductive Schema where
  /-- Texts. -/
  | text
  /-- Points in time. -/
  | instant
  /-- Truth values. -/
  | truth
  /-- Integers of 32 signed bits. -/
  | int32
  /-- Integers of 64 signed bits. -/
  | int64
  /-- Integers and texts alike. -/
  | intOrText
  /-- Objects that may hold anything. -/
  | anyObject
  /-- Some texts. -/
  | oneOf (names : List String)
  /-- Lists of the same schema. -/
  | listOf (item : Schema)
  /-- Objects whose members have the same schema, whatever their names. -/
  | dictOf (value : Schema)
  /-- Objects with these members, of which some have to be there. -/
  | record (fields : List (String × Schema)) (required : List String)
  /-- The same values, with a text that tells what they are for. -/
  | described (purpose : String) (s : Schema)
  /-- The same values and null. -/
  | nullable (s : Schema)
  /-- The same values, one of which stands for a field that is left out. -/
  | default (value : Json) (s : Schema)
  deriving Inhabited

namespace Schema

/-- The member that names a type. -/
def typed (name : String) : Members := [("type", .str name)]

/-- Names of required fields, unless there are none. -/
def requiredMembers (names : List String) : Members := Members.list "required" Json.str names

mutual

/-- The members of the OpenAPI schema. -/
def members : Schema → Members
  | text => typed "string"
  | instant => ("format", .str "date-time") :: typed "string"
  | truth => typed "boolean"
  | int32 => ("format", .str "int32") :: typed "integer"
  | int64 => ("format", .str "int64") :: typed "integer"
  | intOrText => [("x-kubernetes-int-or-string", .bool true)]
  | anyObject => ("x-kubernetes-preserve-unknown-fields", .bool true) :: typed "object"
  | oneOf names => ("enum", .arr (names.map .str)) :: typed "string"
  | listOf item => ("items", Json.ofFields item.members) :: typed "array"
  | dictOf value => ("additionalProperties", Json.ofFields value.members) :: typed "object"
  | record fields required =>
    ("properties", Json.ofFields (properties fields)) :: requiredMembers required ++ typed "object"
  | described purpose s => ("description", .str purpose) :: s.members
  | nullable s => ("nullable", .bool true) :: s.members
  | default value s => ("default", value) :: s.members

/-- The schemas of the fields of a record. -/
def properties : List (String × Schema) → Members
  | [] => []
  | (name, s) :: rest => (name, Json.ofFields s.members) :: properties rest

end

/-- Writes a schema. -/
def toJson (s : Schema) : Json := Json.ofFields s.members

end Schema

end BuildFleet
