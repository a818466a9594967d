import CredentialOperator.Resource.Metadata

/-! # Objects of any kind

An object whose kind the operator does not know field by field: the kind, the metadata, and
everything else as it was read, in normal form.
-/

namespace CredentialOperator

/-- The kind that an object says it is of. -/
structure TypeName where
  /-- The version of the kind's interface. -/
  apiVersion : String
  /-- The name of the kind. -/
  kind : String
deriving DecidableEq, Repr

/-- An object of any kind. -/
structure DynamicObject where
  /-- The kind, when the object names both of its parts. -/
  type : Option TypeName
  /-- The metadata. -/
  metadata : Metadata
  /-- All other fields, in ascending order of their names. -/
  data : Fields
deriving DecidableEq

namespace TypeName

/-- Reads the kind out of the fields of an object and returns it with the fields left over.
The fields that name the kind are taken out one by one; the first that is no text, or that
repeats one, ends the reading without a result, but stays taken. -/
def take (found : Option String × Option String) : Fields → Option TypeName × Fields
  | [] =>
    match found with
    | (some apiVersion, some kind) => (some ⟨apiVersion, kind⟩, [])
    | _ => (none, [])
  | (n, v) :: rest =>
    if n = "apiVersion" then
      match v, found.1 with
      | .string s, none => take (some s, found.2) rest
      | _, _ => (none, rest)
    else if n = "kind" then
      match v, found.2 with
      | .string s, none => take (found.1, some s) rest
      | _, _ => (none, rest)
    else
      let result := take found rest
      (result.1, (n, v) :: result.2)

end TypeName

namespace DynamicObject

/-- Reads an object. -/
def ofJson? (j : Json) : Option DynamicObject := do
  let fields ← j.asObject?
  let metadata ← Json.defaulted fields "metadata" {} Metadata.ofJson?
  let result := TypeName.take (none, none) (fields.filter (·.1 ≠ "metadata"))
  some { type := result.1, metadata, data := Json.normalizeFields [] result.2 }

/-- An object as a value. -/
def toJson (o : DynamicObject) : Json :=
  let type :=
    match o.type with
    | some t => Json.entry "apiVersion" (.string t.apiVersion) ++ Json.entry "kind" (.string t.kind)
    | none => []
  .object (type ++ Json.entry "metadata" o.metadata.toJson ++ o.data)

/-- A field other than kind and metadata. -/
def get? (o : DynamicObject) (name : String) : Option Json := Json.lookup o.data name

end DynamicObject

end CredentialOperator
