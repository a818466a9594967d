import CredentialOperator.Resource.Metadata
import CredentialOperator.Text.Base64

/-! # Secrets

A Secret holds bytes under keys.  As a value it holds them in base64.
-/

namespace CredentialOperator

/-- The bytes that a Secret holds, by key. -/
abbrev SecretData := Std.ExtTreeMap String (List UInt8) compare

/-- A Secret. -/
structure Secret where
  /-- The metadata. -/
  metadata : Metadata
  /-- The bytes held. -/
  data : Option SecretData := none
  /-- Whether the data may not be changed. -/
  immutable : Option Bool := none
  /-- Texts that the server adds to the data. -/
  stringData : Option StringMap := none
  /-- What the data are for. -/
  type : Option String := none
deriving DecidableEq

namespace Secret

/-- The bytes of a text. -/
def bytesOf (s : String) : List UInt8 := s.toUTF8.toList

/-- Whether the Secret holds a key. -/
def holds (s : Secret) (key : String) : Bool :=
  match s.data with
  | some data => data.contains key
  | none => false

/-- The bytes under a key. -/
def get? (s : Secret) (key : String) : Option (List UInt8) := do
  (← s.data)[key]?

/-- Data as a value. -/
def dataJson (data : SecretData) : Json :=
  .object (data.toList.map fun e => (e.1, .string (String.ofList (Text.base64Encode e.2))))

/-- Reads the bytes under a key. -/
def bytes? (j : Json) : Option (List UInt8) := do
  Text.base64Decode? (← j.asString?).toList

/-- A Secret as a value. -/
def toJson (s : Secret) : Json :=
  .object <|
    Json.entry "apiVersion" (.string "v1") ++
    Json.entry "kind" (.string "Secret") ++
    Json.optionalEntry "data" dataJson s.data ++
    Json.optionalEntry "immutable" .bool s.immutable ++
    Json.entry "metadata" s.metadata.toJson ++
    Json.optionalEntry "stringData" Json.ofStringMap s.stringData ++
    Json.optionalEntry "type" .string s.type

/-- Reads a Secret. -/
def ofJson? (j : Json) : Option Secret := do
  let fields ← j.asObject?
  if Json.expects fields "apiVersion" "v1" && Json.expects fields "kind" "Secret" then
    some {
      metadata := ← Json.lenientOr fields "metadata" {} Metadata.ofJson?
      data := ← Json.lenient fields "data" (Json.map? bytes?)
      immutable := ← Json.lenient fields "immutable" Json.bool?
      stringData := ← Json.lenient fields "stringData" Json.stringMap?
      type := ← Json.lenient fields "type" Json.string? }
  else none

end Secret

end CredentialOperator
