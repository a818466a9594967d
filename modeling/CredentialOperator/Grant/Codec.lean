import CredentialOperator.Grant.Basic
import CredentialOperator.Names

/-! # Grants as values

What a tenant writes is read strictly.  Empty lists and absent parts are left out when a
grant is written; how pods are given the artifact always stands, as does whether a directory
may only be read.
-/

namespace CredentialOperator

namespace EnvMapping

/-- A mapping as a value. -/
def toJson (m : EnvMapping) : Json :=
  .object <|
    Json.entry "name" (.string m.name) ++ Json.entry "secretKey" (.string m.secretKey)

/-- Reads a mapping. -/
def ofJson? (j : Json) : Option EnvMapping := do
  let fields ← j.asObject?
  some {
    name := ← Json.required fields "name" Json.string?
    secretKey := ← Json.required fields "secretKey" Json.string? }

end EnvMapping

namespace VolumeMapping

/-- A mapping as a value. -/
def toJson (m : VolumeMapping) : Json :=
  .object <|
    Json.entry "mountPath" (.string m.mountPath) ++ Json.entry "readOnly" (.bool m.readOnly)

/-- Reads a mapping. -/
def ofJson? (j : Json) : Option VolumeMapping := do
  let fields ← j.asObject?
  some {
    mountPath := ← Json.required fields "mountPath" Json.string?
    readOnly := ← Json.defaulted fields "readOnly" true Json.bool? }

end VolumeMapping

namespace Injection

/-- The description as a value. -/
def toJson (i : Injection) : Json :=
  .object <|
    Json.entries "env" EnvMapping.toJson i.env ++
    Json.optionalEntry "volume" VolumeMapping.toJson i.volume

/-- Reads a description. -/
def ofJson? (j : Json) : Option Injection := do
  let fields ← j.asObject?
  some {
    env := ← Json.defaulted fields "env" [] (Json.list? EnvMapping.ofJson?)
    volume := ← Json.optional fields "volume" VolumeMapping.ofJson? }

end Injection

namespace GrantRotation

/-- A policy as a value. -/
def toJson (r : GrantRotation) : Json :=
  .object <| Json.optionalEntry "interval" .string r.interval

/-- Reads a policy. -/
def ofJson? (j : Json) : Option GrantRotation := do
  let fields ← j.asObject?
  some { interval := ← Json.optional fields "interval" Json.string? }

end GrantRotation

namespace GrantSpec

/-- A reference to a provider as a value. -/
def providerRefJson (name : String) : Json := .object (Json.entry "name" (.string name))

/-- Reads a reference to a provider. -/
def providerRef? (j : Json) : Option String := do
  let fields ← j.asObject?
  Json.required fields "name" Json.string?

/-- A request as a value. -/
def toJson (s : GrantSpec) : Json :=
  .object <|
    Json.entry "providerRef" (providerRefJson s.provider) ++
    Json.entries "capabilities" .string s.capabilities ++
    Json.entry "secretName" (.string s.secretName) ++
    Json.optionalEntry "workloadSelector" Selector.toJson s.workloadSelector ++
    Json.entry "injection" s.injection.toJson ++
    Json.optionalEntry "rotation" GrantRotation.toJson s.rotation

/-- Reads a request. -/
def ofJson? (j : Json) : Option GrantSpec := do
  let fields ← j.asObject?
  some {
    provider := ← Json.required fields "providerRef" providerRef?
    capabilities := ← Json.defaulted fields "capabilities" [] Json.strings?
    secretName := ← Json.required fields "secretName" Json.string?
    workloadSelector := ← Json.optional fields "workloadSelector" Selector.ofJson?
    injection := ← Json.defaulted fields "injection" {} Injection.ofJson?
    rotation := ← Json.optional fields "rotation" GrantRotation.ofJson? }

end GrantSpec

namespace ArtifactReference

/-- A reference as a value. -/
def toJson (r : ArtifactReference) : Json :=
  .object <|
    Json.entry "kind" (.string r.kind) ++ Json.entry "namespace" (.string r.ns) ++
      Json.entry "name" (.string r.name)

/-- Reads a reference. -/
def ofJson? (j : Json) : Option ArtifactReference := do
  let fields ← j.asObject?
  some {
    kind := ← Json.required fields "kind" Json.string?
    ns := ← Json.required fields "namespace" Json.string?
    name := ← Json.required fields "name" Json.string? }

end ArtifactReference

namespace GrantStatus

/-- A status as a value. -/
def toJson (s : GrantStatus) : Json :=
  .object <|
    Json.entries "conditions" Condition.toJson s.conditions ++
    Json.optionalEntry "secretRef" ArtifactReference.toJson s.secretRef ++
    Json.optionalEntry "lastRotation" Condition.timestampJson s.lastRotation ++
    Json.optionalEntry "nextRotation" Condition.timestampJson s.nextRotation ++
    Json.entries "grantedCapabilities" .string s.grantedCapabilities

/-- Reads a status. -/
def ofJson? (j : Json) : Option GrantStatus := do
  let fields ← j.asObject?
  some {
    conditions := ← Json.defaulted fields "conditions" [] (Json.list? Condition.ofJson?)
    secretRef := ← Json.optional fields "secretRef" ArtifactReference.ofJson?
    lastRotation := ← Json.optional fields "lastRotation" Condition.timestamp?
    nextRotation := ← Json.optional fields "nextRotation" Condition.timestamp?
    grantedCapabilities := ← Json.defaulted fields "grantedCapabilities" [] Json.strings? }

end GrantStatus

namespace Grant

/-- A grant as a value. -/
def toJson (g : Grant) : Json :=
  .object <|
    Json.entry "apiVersion" (.string operatorApiVersion) ++
    Json.entry "kind" (.string grantKind) ++
    Json.entry "metadata" g.metadata.toJson ++
    Json.entry "spec" g.spec.toJson ++
    Json.optionalEntry "status" GrantStatus.toJson g.status

/-- Reads a grant. -/
def ofJson? (j : Json) : Option Grant := do
  let fields ← j.asObject?
  some {
    metadata := ← Json.required fields "metadata" Metadata.ofJson?
    spec := ← Json.required fields "spec" GrantSpec.ofJson?
    status := ← Json.optional fields "status" GrantStatus.ofJson? }

/-- The reference to a grant in events. -/
def reference (g : Grant) : ObjectReference :=
  .ofMetadata operatorApiVersion grantKind g.metadata

end Grant

end CredentialOperator
