import CredentialOperator.Provider.Codec
import CredentialOperator.Resource.Kind

/-! # External secrets

An ExternalSecret asks the External Secrets Operator to copy values of a store into a Secret.
This is the part of its form that the operator writes, in the version `v1beta1`.
-/

namespace CredentialOperator

/-- The metadata of an ExternalSecret. -/
structure ExternalSecretMetadata where
  /-- The name. -/
  name : String
  /-- The namespace. -/
  ns : String
  /-- The labels. -/
  labels : StringMap := ∅
deriving DecidableEq

/-- The store of an ExternalSecret, its kind given by its text. -/
structure SecretStoreRef where
  /-- The name of the store. -/
  name : String
  /-- Its kind. -/
  kind : String
deriving DecidableEq, Repr

/-- The Secret that is written. -/
structure ExternalSecretTarget where
  /-- Its name. -/
  name : String
  /-- Who owns it. -/
  creationPolicy : Option String := none
deriving DecidableEq, Repr

/-- A value that is copied. -/
structure ExternalSecretData where
  /-- The key in the Secret. -/
  secretKey : String
  /-- The place in the store. -/
  remoteRef : RemoteReference
deriving DecidableEq, Repr

/-- What an ExternalSecret asks for. -/
structure ExternalSecretSpec where
  /-- How often the values are copied. -/
  refreshInterval : Option String := none
  /-- The store. -/
  secretStoreRef : SecretStoreRef
  /-- The Secret. -/
  target : ExternalSecretTarget
  /-- The values. -/
  data : List ExternalSecretData := []
deriving DecidableEq, Repr

/-- The version of the interface of ExternalSecrets. -/
def externalSecretApiVersion : String := "external-secrets.io/v1beta1"

/-- The name of their kind. -/
def externalSecretKindName : String := "ExternalSecret"

/-- Their kind. -/
def externalSecretKind : ResourceKind :=
  .ofNames externalSecretApiVersion externalSecretKindName

/-- An ExternalSecret. -/
structure ExternalSecret where
  /-- The version of its interface. -/
  apiVersion : String := externalSecretApiVersion
  /-- The name of its kind. -/
  kind : String := externalSecretKindName
  /-- The metadata. -/
  metadata : ExternalSecretMetadata
  /-- What it asks for. -/
  spec : ExternalSecretSpec
deriving DecidableEq

namespace ExternalSecretMetadata

/-- Metadata as a value. -/
def toJson (m : ExternalSecretMetadata) : Json :=
  let labels := if m.labels.isEmpty then [] else Json.entry "labels" (Json.ofStringMap m.labels)
  .object <| Json.entry "name" (.string m.name) ++ Json.entry "namespace" (.string m.ns) ++ labels

/-- Reads metadata. -/
def ofJson? (j : Json) : Option ExternalSecretMetadata := do
  let fields ← j.asObject?
  some {
    name := ← Json.required fields "name" Json.string?
    ns := ← Json.required fields "namespace" Json.string?
    labels := ← Json.defaulted fields "labels" ∅ Json.stringMap? }

end ExternalSecretMetadata

namespace SecretStoreRef

/-- A reference as a value. -/
def toJson (r : SecretStoreRef) : Json :=
  .object <| Json.entry "name" (.string r.name) ++ Json.entry "kind" (.string r.kind)

/-- Reads a reference. -/
def ofJson? (j : Json) : Option SecretStoreRef := do
  let fields ← j.asObject?
  some {
    name := ← Json.required fields "name" Json.string?
    kind := ← Json.required fields "kind" Json.string? }

end SecretStoreRef

namespace ExternalSecretTarget

/-- A target as a value. -/
def toJson (t : ExternalSecretTarget) : Json :=
  .object <|
    Json.entry "name" (.string t.name) ++ Json.optionalEntry "creationPolicy" .string t.creationPolicy

/-- Reads a target. -/
def ofJson? (j : Json) : Option ExternalSecretTarget := do
  let fields ← j.asObject?
  some {
    name := ← Json.required fields "name" Json.string?
    creationPolicy := ← Json.optional fields "creationPolicy" Json.string? }

end ExternalSecretTarget

namespace ExternalSecretData

/-- A copied value as a value. -/
def toJson (d : ExternalSecretData) : Json :=
  .object <|
    Json.entry "secretKey" (.string d.secretKey) ++ Json.entry "remoteRef" d.remoteRef.toJson

/-- Reads a copied value. -/
def ofJson? (j : Json) : Option ExternalSecretData := do
  let fields ← j.asObject?
  some {
    secretKey := ← Json.required fields "secretKey" Json.string?
    remoteRef := ← Json.required fields "remoteRef" RemoteReference.ofJson? }

end ExternalSecretData

namespace ExternalSecretSpec

/-- A request as a value. -/
def toJson (s : ExternalSecretSpec) : Json :=
  .object <|
    Json.optionalEntry "refreshInterval" .string s.refreshInterval ++
    Json.entry "secretStoreRef" s.secretStoreRef.toJson ++
    Json.entry "target" s.target.toJson ++
    Json.entries "data" ExternalSecretData.toJson s.data

/-- Reads a request. -/
def ofJson? (j : Json) : Option ExternalSecretSpec := do
  let fields ← j.asObject?
  some {
    refreshInterval := ← Json.optional fields "refreshInterval" Json.string?
    secretStoreRef := ← Json.required fields "secretStoreRef" SecretStoreRef.ofJson?
    target := ← Json.required fields "target" ExternalSecretTarget.ofJson?
    data := ← Json.defaulted fields "data" [] (Json.list? ExternalSecretData.ofJson?) }

end ExternalSecretSpec

namespace ExternalSecret

/-- An ExternalSecret as a value. -/
def toJson (e : ExternalSecret) : Json :=
  .object <|
    Json.entry "apiVersion" (.string e.apiVersion) ++
    Json.entry "kind" (.string e.kind) ++
    Json.entry "metadata" e.metadata.toJson ++
    Json.entry "spec" e.spec.toJson

/-- Reads an ExternalSecret. -/
def ofJson? (j : Json) : Option ExternalSecret := do
  let fields ← j.asObject?
  some {
    apiVersion := ← Json.defaulted fields "apiVersion" externalSecretApiVersion Json.string?
    kind := ← Json.defaulted fields "kind" externalSecretKindName Json.string?
    metadata := ← Json.required fields "metadata" ExternalSecretMetadata.ofJson?
    spec := ← Json.required fields "spec" ExternalSecretSpec.ofJson? }

end ExternalSecret

end CredentialOperator
