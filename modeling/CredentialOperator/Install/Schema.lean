import CredentialOperator.Json.Basic

/-! # Schemas

A schema tells the cluster of which form the values of a kind's fields are.  It is a form with
notes wrapped around it: a description, the permission to be `null`, a default.

`Schema.toJson` is the schema as it stands in a definition.
-/

namespace CredentialOperator

/-- The range of an integer. -/
inductive IntegerRange where
  /-- Thirty-two bits with a sign. -/
  | int32
  /-- Sixty-four bits with a sign. -/
  | int64
  /-- Sixty-four bits without a sign. -/
  | uint64
deriving DecidableEq, Repr

/-- The text of a range. -/
def IntegerRange.text : IntegerRange → String
  | .int32 => "int32"
  | .int64 => "int64"
  | .uint64 => "uint64"

/-- Whether a field must be there. -/
inductive Presence where
  /-- It must. -/
  | required
  /-- It may be missing. -/
  | optional
deriving DecidableEq, Repr

/-- A schema. -/
inductive Schema where
  /-- A text. -/
  | string
  /-- A text that is an instant. -/
  | instant
  /-- One of some texts. -/
  | choice (options : List String)
  /-- A truth value. -/
  | boolean
  /-- A whole number. -/
  | integer (range : IntegerRange)
  /-- A list of values of one form. -/
  | list (item : Schema)
  /-- An object whose values are of one form. -/
  | map (value : Schema)
  /-- An object with the given fields, in ascending order of their names. -/
  | record (fields : List (String × Presence × Schema))
  /-- A form with a description. -/
  | described (description : String) (form : Schema)
  /-- A form, or `null`. -/
  | nullable (form : Schema)
  /-- A form with the value that stands for a missing one. -/
  | defaulting (value : Json) (form : Schema)

namespace Schema

/-- The entry for the type of values. -/
def typeEntry (name : String) : Fields := [("type", .string name)]

/-- The names of the fields that must be there. -/
def requiredNames (fields : List (String × Presence × Schema)) : List String :=
  (fields.filter fun f => f.2.1 = .required).map fun f => f.1

/-- The entry for the fields that must be there, if there are any. -/
def requiredEntry (names : List String) : Fields :=
  if names.isEmpty then [] else [("required", Json.ofStrings names)]

mutual

/-- The entries of a schema. -/
def entries : Schema → Fields
  | .string => typeEntry "string"
  | .instant => ("format", .string "date-time") :: typeEntry "string"
  | .choice options => ("enum", Json.ofStrings options) :: typeEntry "string"
  | .boolean => typeEntry "boolean"
  | .integer range =>
    let format := ("format", Json.string range.text) :: typeEntry "integer"
    if range = .uint64 then ("minimum", .number (.real false 0 0)) :: format else format
  | .list item => ("items", .object item.entries) :: typeEntry "array"
  | .map value => ("additionalProperties", .object value.entries) :: typeEntry "object"
  | .record fields =>
    ("properties", .object (properties fields)) ::
      (requiredEntry (requiredNames fields) ++ typeEntry "object")
  | .described description form => ("description", .string description) :: form.entries
  | .nullable form => ("nullable", .bool true) :: form.entries
  | .defaulting value form => ("default", value) :: form.entries

/-- The schemas of fields under their names. -/
def properties : List (String × Presence × Schema) → Fields
  | [] => []
  | (name, _, form) :: rest => (name, .object form.entries) :: properties rest

end

/-- A schema as it stands in a definition. -/
def toJson (s : Schema) : Json := .object s.entries

/-! ## Writing schemas -/

/-- A field that must be there. -/
def required (name description : String) (form : Schema) : String × Presence × Schema :=
  (name, .required, .described description form)

/-- A field that may be missing. -/
def optional (name description : String) (form : Schema) : String × Presence × Schema :=
  (name, .optional, .described description form)

end Schema

end CredentialOperator
