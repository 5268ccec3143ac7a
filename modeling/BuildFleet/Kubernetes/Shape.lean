import BuildFleet.Json.Record
import BuildFleet.Time.Rfc3339

/-!
# Shapes of API objects

The API server knows the fields of its objects and the form of each. A `Shape` says what a
value may look like, and `Shape.conform?` brings a value into that shape: unknown fields are
dropped, null means absent, a required field that is absent gets the zero value of its
shape, an instant loses its fraction of a second, and a value of another form is refused.
-/

namespace BuildFleet

/-- The form of a value in the API. -/
inductive Shape where
  /-- A text. -/
  | string
  /-- A truth value. -/
  | boolean
  /-- An integer of 32 signed bits. -/
  | int32
  /-- An integer of 64 signed bits. -/
  | int64
  /-- An integer of 32 signed bits or a text. -/
  | intOrString
  /-- An instant, of which the API keeps whole seconds. -/
  | time
  /-- Anything. -/
  | any
  /-- A list. -/
  | list (item : Shape)
  /-- A map from texts. -/
  | map (value : Shape)
  /-- An object, as the name, need and shape of each field; a needed field is always there. -/
  | object (fields : List (String × Bool × Shape))

namespace Shape

/-- A field that may be absent. -/
def optional (name : String) (s : Shape) : String × Bool × Shape := (name, false, s)

/-- A field that is always there. -/
def required (name : String) (s : Shape) : String × Bool × Shape := (name, true, s)

mutual

/-- What stands for an absent value that is needed. -/
def zero : Shape → Json
  | string => .str ""
  | boolean => .bool false
  | int32 => .int 0
  | int64 => .int 0
  | intOrString => .int 0
  | time => .null
  | any => .null
  | list _ => .arr []
  | map _ => .obj []
  | object fields => Json.ofFields (zeroFields fields)

/-- The needed fields of an object, with nothing in them. -/
def zeroFields : List (String × Bool × Shape) → Members
  | [] => []
  | (name, needed, s) :: rest =>
    if needed then (name, s.zero) :: zeroFields rest else zeroFields rest

end

mutual

/-- The value in this shape; none if it has another form. -/
def conform? : Shape → Json → Option Json
  | string, j => j.text?.map .str
  | boolean, j => j.bool?.map .bool
  | int32, j => j.int32?.map .int
  | int64, j => j.int64?.map .int
  | intOrString, j => (j.text?.map .str).or (j.int32?.map .int)
  | time, j => (Instant.ofJson? j).map fun i => i.startOfSecond.toJson
  | any, j => some j
  | list item, j => j.items?.bind fun items => (items.mapM (conform? item)).map .arr
  | map value, j => j.fields?.bind fun fields =>
      (fields.mapM fun e => (conform? value e.2).map fun v => (e.1, v)).map .obj
  | object fields, j => j.fields?.bind fun members =>
      (conformFields? fields members).map Json.ofFields

/-- The members that an object of the fields has. -/
def conformFields? : List (String × Bool × Shape) → Members → Option Members
  | [], _ => some []
  | (name, needed, s) :: rest, members =>
    (conformFields? rest members).bind fun others =>
      match (Entries.get? name members).getD .null with
      | .null => some (if needed then (name, s.zero) :: others else others)
      | j => (conform? s j).map fun v => (name, v) :: others

end

end Shape

end BuildFleet
