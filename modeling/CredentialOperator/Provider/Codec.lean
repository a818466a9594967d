import CredentialOperator.Names
import CredentialOperator.Provider.Basic

/-! # Providers as values

What an owner writes is read strictly.  Empty lists and absent parts are left out when a
provider is written; whether rotation is enabled and the number of grants always stand.
-/

namespace CredentialOperator

namespace SecretKeyReference

/-- A reference as a value. -/
def toJson (r : SecretKeyReference) : Json :=
  .object <|
    Json.entry "name" (.string r.name) ++ Json.entry "namespace" (.string r.ns) ++
      Json.entry "key" (.string r.key)

/-- Reads a reference. -/
def ofJson? (j : Json) : Option SecretKeyReference := do
  let fields ← j.asObject?
  some {
    name := ← Json.required fields "name" Json.string?
    ns := ← Json.required fields "namespace" Json.string?
    key := ← Json.required fields "key" Json.string? }

end SecretKeyReference

namespace RotationPolicy

/-- A policy as a value. -/
def toJson (r : RotationPolicy) : Json :=
  .object <|
    Json.entry "enabled" (.bool r.enabled) ++
    Json.optionalEntry "interval" .string r.interval ++
    Json.optionalEntry "strategy" (fun s : RotationStrategy => .string s.text) r.strategy

/-- Reads a policy. -/
def ofJson? (j : Json) : Option RotationPolicy := do
  let fields ← j.asObject?
  some {
    enabled := ← Json.defaulted fields "enabled" false Json.bool?
    interval := ← Json.optional fields "interval" Json.string?
    strategy := ← Json.optional fields "strategy" (Json.named? RotationStrategy.ofText?) }

end RotationPolicy

namespace ApiKeyAuth

/-- The block as a value. -/
def toJson (a : ApiKeyAuth) : Json :=
  .object <|
    Json.entry "secretRef" a.secretRef.toJson ++
    Json.optionalEntry "rotation" RotationPolicy.toJson a.rotation

/-- Reads the block. -/
def ofJson? (j : Json) : Option ApiKeyAuth := do
  let fields ← j.asObject?
  some {
    secretRef := ← Json.required fields "secretRef" SecretKeyReference.ofJson?
    rotation := ← Json.optional fields "rotation" RotationPolicy.ofJson? }

end ApiKeyAuth

namespace StoreReference

/-- A reference as a value. -/
def toJson (r : StoreReference) : Json :=
  .object <| Json.entry "name" (.string r.name) ++ Json.entry "kind" (.string r.kind.text)

/-- Reads a reference. -/
def ofJson? (j : Json) : Option StoreReference := do
  let fields ← j.asObject?
  some {
    name := ← Json.required fields "name" Json.string?
    kind := ← Json.required fields "kind" (Json.named? StoreKind.ofText?) }

end StoreReference

namespace RemoteReference

/-- A reference as a value. -/
def toJson (r : RemoteReference) : Json :=
  .object <|
    Json.entry "key" (.string r.key) ++
    Json.optionalEntry "property" .string r.property ++
    Json.optionalEntry "version" .string r.version

/-- Reads a reference. -/
def ofJson? (j : Json) : Option RemoteReference := do
  let fields ← j.asObject?
  some {
    key := ← Json.required fields "key" Json.string?
    property := ← Json.optional fields "property" Json.string?
    version := ← Json.optional fields "version" Json.string? }

end RemoteReference

namespace ExternalSecretAuth

/-- The block as a value. -/
def toJson (a : ExternalSecretAuth) : Json :=
  .object <|
    Json.entry "store" a.store.toJson ++
    Json.entry "remoteRef" a.remoteRef.toJson ++
    Json.optionalEntry "refreshInterval" .string a.refreshInterval

/-- Reads the block. -/
def ofJson? (j : Json) : Option ExternalSecretAuth := do
  let fields ← j.asObject?
  some {
    store := ← Json.required fields "store" StoreReference.ofJson?
    remoteRef := ← Json.required fields "remoteRef" RemoteReference.ofJson?
    refreshInterval := ← Json.optional fields "refreshInterval" Json.string? }

end ExternalSecretAuth

namespace AwsIdentity

/-- An identity as a value. -/
def toJson (i : AwsIdentity) : Json :=
  .object <|
    Json.entry "roleArn" (.string i.roleArn) ++ Json.entry "region" (.string i.region)

/-- Reads an identity. -/
def ofJson? (j : Json) : Option AwsIdentity := do
  let fields ← j.asObject?
  some {
    roleArn := ← Json.required fields "roleArn" Json.string?
    region := ← Json.required fields "region" Json.string? }

end AwsIdentity

namespace AzureIdentity

/-- An identity as a value. -/
def toJson (i : AzureIdentity) : Json :=
  .object <|
    Json.entry "clientId" (.string i.clientId) ++
    Json.entry "tenantId" (.string i.tenantId) ++
    Json.optionalEntry "managedIdentityResourceId" .string i.managedIdentityResourceId

/-- Reads an identity. -/
def ofJson? (j : Json) : Option AzureIdentity := do
  let fields ← j.asObject?
  some {
    clientId := ← Json.required fields "clientId" Json.string?
    tenantId := ← Json.required fields "tenantId" Json.string?
    managedIdentityResourceId :=
      ← Json.optional fields "managedIdentityResourceId" Json.string? }

end AzureIdentity

namespace GcpIdentity

/-- An identity as a value. -/
def toJson (i : GcpIdentity) : Json :=
  .object <|
    Json.entry "serviceAccountEmail" (.string i.serviceAccountEmail) ++
    Json.entry "projectId" (.string i.projectId)

/-- Reads an identity. -/
def ofJson? (j : Json) : Option GcpIdentity := do
  let fields ← j.asObject?
  some {
    serviceAccountEmail := ← Json.required fields "serviceAccountEmail" Json.string?
    projectId := ← Json.required fields "projectId" Json.string? }

end GcpIdentity

namespace WorkloadIdentityAuth

/-- The block as a value. -/
def toJson (a : WorkloadIdentityAuth) : Json :=
  .object <|
    Json.optionalEntry "aws" AwsIdentity.toJson a.aws ++
    Json.optionalEntry "azure" AzureIdentity.toJson a.azure ++
    Json.optionalEntry "gcp" GcpIdentity.toJson a.gcp

/-- Reads the block. -/
def ofJson? (j : Json) : Option WorkloadIdentityAuth := do
  let fields ← j.asObject?
  some {
    aws := ← Json.optional fields "aws" AwsIdentity.ofJson?
    azure := ← Json.optional fields "azure" AzureIdentity.ofJson?
    gcp := ← Json.optional fields "gcp" GcpIdentity.ofJson? }

end WorkloadIdentityAuth

namespace Auth

/-- The description of authentication as a value. -/
def toJson (a : Auth) : Json :=
  .object <|
    Json.entry "type" (.string a.type.text) ++
    Json.optionalEntry "apiKey" ApiKeyAuth.toJson a.apiKey ++
    Json.optionalEntry "externalSecret" ExternalSecretAuth.toJson a.externalSecret ++
    Json.optionalEntry "workloadIdentity" WorkloadIdentityAuth.toJson a.workloadIdentity

/-- Reads a description of authentication. -/
def ofJson? (j : Json) : Option Auth := do
  let fields ← j.asObject?
  some {
    type := ← Json.required fields "type" (Json.named? AuthType.ofText?)
    apiKey := ← Json.optional fields "apiKey" ApiKeyAuth.ofJson?
    externalSecret := ← Json.optional fields "externalSecret" ExternalSecretAuth.ofJson?
    workloadIdentity :=
      ← Json.optional fields "workloadIdentity" WorkloadIdentityAuth.ofJson? }

end Auth

namespace RateLimit

/-- Limits as a value. -/
def toJson (r : RateLimit) : Json :=
  .object <|
    Json.optionalEntry "requestsPerMinute" Json.ofNat r.requestsPerMinute ++
    Json.optionalEntry "tokensPerMinute" Json.ofNat r.tokensPerMinute

/-- Reads limits. -/
def ofJson? (j : Json) : Option RateLimit := do
  let fields ← j.asObject?
  some {
    requestsPerMinute := ← Json.optional fields "requestsPerMinute" Json.nat64?
    tokensPerMinute := ← Json.optional fields "tokensPerMinute" Json.nat64? }

end RateLimit

namespace Endpoint

/-- An endpoint as a value. -/
def toJson (e : Endpoint) : Json :=
  .object <| Json.optionalEntry "baseUrl" .string e.baseUrl

/-- Reads an endpoint. -/
def ofJson? (j : Json) : Option Endpoint := do
  let fields ← j.asObject?
  some { baseUrl := ← Json.optional fields "baseUrl" Json.string? }

end Endpoint

namespace ProviderSpec

/-- A declaration as a value. -/
def toJson (s : ProviderSpec) : Json :=
  .object <|
    Json.entry "provider" (.string s.provider.text) ++
    Json.entry "auth" s.auth.toJson ++
    Json.entries "allowedCapabilities" .string s.allowedCapabilities ++
    Json.optionalEntry "rateLimit" RateLimit.toJson s.rateLimit ++
    Json.optionalEntry "namespaceSelector" Selector.toJson s.namespaceSelector ++
    Json.optionalEntry "endpoint" Endpoint.toJson s.endpoint

/-- Reads a declaration. -/
def ofJson? (j : Json) : Option ProviderSpec := do
  let fields ← j.asObject?
  some {
    provider := ← Json.required fields "provider" (Json.named? ProviderType.ofText?)
    auth := ← Json.required fields "auth" Auth.ofJson?
    allowedCapabilities := ← Json.defaulted fields "allowedCapabilities" [] Json.strings?
    rateLimit := ← Json.optional fields "rateLimit" RateLimit.ofJson?
    namespaceSelector := ← Json.optional fields "namespaceSelector" Selector.ofJson?
    endpoint := ← Json.optional fields "endpoint" Endpoint.ofJson? }

end ProviderSpec

namespace ProviderStatus

/-- A status as a value. -/
def toJson (s : ProviderStatus) : Json :=
  .object <|
    Json.entries "conditions" Condition.toJson s.conditions ++
    Json.optionalEntry "lastCredentialCheck" Condition.timestampJson s.lastCredentialCheck ++
    Json.entry "grantCount" (Json.ofInt s.grantCount)

/-- Reads a status. -/
def ofJson? (j : Json) : Option ProviderStatus := do
  let fields ← j.asObject?
  some {
    conditions := ← Json.defaulted fields "conditions" [] (Json.list? Condition.ofJson?)
    lastCredentialCheck := ← Json.optional fields "lastCredentialCheck" Condition.timestamp?
    grantCount := ← Json.defaulted fields "grantCount" 0 Json.int32? }

end ProviderStatus

namespace Provider

/-- A provider as a value. -/
def toJson (p : Provider) : Json :=
  .object <|
    Json.entry "apiVersion" (.string operatorApiVersion) ++
    Json.entry "kind" (.string providerKind) ++
    Json.entry "metadata" p.metadata.toJson ++
    Json.entry "spec" p.spec.toJson ++
    Json.optionalEntry "status" ProviderStatus.toJson p.status

/-- Reads a provider. -/
def ofJson? (j : Json) : Option Provider := do
  let fields ← j.asObject?
  some {
    metadata := ← Json.required fields "metadata" Metadata.ofJson?
    spec := ← Json.required fields "spec" ProviderSpec.ofJson?
    status := ← Json.optional fields "status" ProviderStatus.ofJson? }

/-- The reference to a provider in events. -/
def reference (p : Provider) : ObjectReference :=
  .ofMetadata operatorApiVersion providerKind p.metadata

end Provider

end CredentialOperator
