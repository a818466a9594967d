import CredentialOperator.Json.Record

/-! # Shapes

A shape describes the form of a value of which nothing but the form matters.  Records are
lenient: each of their fields may be missing or `null`, and other fields may stand beside
them.
-/

namespace CredentialOperator.Json

/-- A form of values. -/
inductive Shape where
  /-- Any value. -/
  | any
  /-- A truth value. -/
  | bool
  /-- A text. -/
  | string
  /-- An integer of thirty-two bits. -/
  | int32
  /-- An integer of sixty-four bits. -/
  | int64
  /-- An integer of thirty-two bits or a text. -/
  | intOrString
  /-- A text that the given reader reads. -/
  | text (reads : String → Bool)
  /-- A list of values of one form. -/
  | list (item : Shape)
  /-- An object whose values are of one form. -/
  | map (value : Shape)
  /-- An object with some known fields. -/
  | record (fields : List (String × Shape))

namespace Shape

mutual

/-- Whether a value is of a form. -/
def accepts : Shape → Json → Bool
  | .any, _ => true
  | .bool, .bool _ => true
  | .string, .string _ => true
  | .int32, j => j.int32?.isSome
  | .int64, j => j.int64?.isSome
  | .intOrString, j => j.int32?.isSome || j.asString?.isSome
  | .text reads, .string s => reads s
  | .list item, .array items => items.all fun j => accepts item j
  | .map value, .object fields => fields.all fun f => accepts value f.2
  | .record known, .object fields => acceptsFields known fields
  | _, _ => false

/-- Whether every known field of an object is missing, `null` or of its form. -/
def acceptsFields : List (String × Shape) → Fields → Bool
  | [], _ => true
  | (name, shape) :: rest, fields =>
    ((occurrences fields name).all fun j => j = .null || accepts shape j) &&
      acceptsFields rest fields

end

end Shape

/-- Reads any value of a form. -/
def shaped? (shape : Shape) (j : Json) : Option Json :=
  if shape.accepts j then some j else none

/-- The fields of an object except the named ones, if those that are known have their forms. -/
def others? (fields : Fields) (except : List String) (known : List (String × Shape)) :
    Option Fields :=
  if Shape.acceptsFields known fields then some (fields.filter fun f => !except.contains f.1)
  else none

end CredentialOperator.Json
