import CredentialOperator.Install.CommonSchema
import CredentialOperator.Install.Definition
import CredentialOperator.Provider.Basic

/-! # The definition of providers -/

namespace CredentialOperator

namespace ProviderSchema

/-- What the schema says about providers as a whole. -/
def summary : String :=
  "CredentialProvider declares an upstream API and its master credential.\n\n" ++
  "Example: \x60\x60\x60yaml apiVersion: keygate.dev/v1alpha1 kind: CredentialProvider " ++
  "metadata: name: openai-prod spec: provider: openai auth: type: apiKey apiKey: " ++
  "secretRef: name: openai-master namespace: keygate-system key: api-key rotation: " ++
  "enabled: true interval: 30d allowedCapabilities: [gpt-4o, gpt-4o-mini] " ++
  "namespaceSelector: matchLabels: keygate.dev/llm-access: enabled \x60\x60\x60"

/-- A policy of rotation. -/
def rotation : Schema :=
  .record [
    Schema.optional "enabled" "Whether automatic rotation is enabled" <|
      .defaulting (.bool false) .boolean,
    Schema.optional "interval" "Interval between rotations (e.g., \"30d\", \"7d\")" <|
      .nullable .string,
    Schema.optional "strategy" "How rotation is performed" <| .nullable <|
      Schema.oneOf RotationStrategy.text [.providerApi, .recreateSecret]]

/-- The block for a key in a Secret of the platform. -/
def apiKey : Schema :=
  .record [
    Schema.optional "rotation" "Rotation policy" (.nullable rotation),
    Schema.required "secretRef" "Master Secret holding the key" <| Schema.texts [
      ("key", "Key within the Secret's data"),
      ("name", "Secret name"),
      ("namespace", "Secret namespace")]]

/-- The block for a key in an external store. -/
def externalSecret : Schema :=
  .record [
    Schema.optional "refreshInterval" "How often ESO refreshes the value (e.g., \"1h\")" <|
      .nullable .string,
    Schema.required "remoteRef" "Location of the credential in the external store" <| .record [
      Schema.required "key" "Key/path in the store" .string,
      Schema.optional "property" "Property within the stored object" (.nullable .string),
      Schema.optional "version" "Specific version of the stored value" (.nullable .string)],
    Schema.required "store" "SecretStore or ClusterSecretStore to pull from" <| .record [
      Schema.required "kind" "Store kind" <|
        Schema.oneOf StoreKind.text [.secretStore, .clusterSecretStore],
      Schema.required "name" "Store name" .string]]

/-- The block for the identity of a workload. -/
def workloadIdentity : Schema :=
  .record [
    Schema.optional "aws" "AWS IRSA" <| .nullable <| Schema.texts [
      ("region", "AWS region"),
      ("roleArn", "IAM role ARN to assume")],
    Schema.optional "azure" "Azure Workload Identity" <| .nullable <| .record [
      Schema.required "clientId" "Application client ID" .string,
      Schema.optional "managedIdentityResourceId"
        "User-assigned managed identity resource ID" (.nullable .string),
      Schema.required "tenantId" "Tenant ID" .string],
    Schema.optional "gcp" "GCP Workload Identity Federation" <| .nullable <| Schema.texts [
      ("projectId", "Project ID"),
      ("serviceAccountEmail", "Service account email")]]

/-- How the master credential is obtained. -/
def auth : Schema :=
  .record [
    Schema.optional "apiKey" "Required when type is \x60apiKey\x60" (.nullable apiKey),
    Schema.optional "externalSecret" "Required when type is \x60externalSecret\x60" <|
      .nullable externalSecret,
    Schema.required "type" "Which block below is authoritative" <|
      Schema.oneOf AuthType.text [.apiKey, .externalSecret, .workloadIdentity],
    Schema.optional "workloadIdentity" "Required when type is \x60workloadIdentity\x60" <|
      .nullable workloadIdentity]

/-- What a provider declares. -/
def spec : Schema :=
  .described summary <| .record [
    Schema.optional "allowedCapabilities"
      ("Capability identifiers (model names, scopes) grants may request. " ++
        "Empty means unrestricted.") <|
      .list .string,
    Schema.required "auth" "How the master credential is obtained" auth,
    Schema.optional "endpoint" "Endpoint override (proxies, private endpoints)" <| .nullable <|
      .record [Schema.optional "baseUrl"
        "Base URL for the provider API; empty means provider default" (.nullable .string)],
    Schema.optional "namespaceSelector"
      ("Namespaces allowed to create grants against this provider. " ++
        "Absent means every namespace.") <|
      .nullable Schema.selector,
    Schema.required "provider" "Upstream service this declaration is for" <|
      Schema.oneOf ProviderType.text ProviderType.all,
    Schema.optional "rateLimit" "Informational rate limits advertised to consumers" <|
      .nullable <| .record [
        Schema.optional "requestsPerMinute" "Max requests per minute" <|
          .nullable (.integer .uint64),
        Schema.optional "tokensPerMinute" "Max tokens per minute" <|
          .nullable (.integer .uint64)]]

/-- What is observed of a provider. -/
def status : Schema :=
  .described "CredentialProvider status" <| .nullable <| .record [
    Schema.conditions,
    Schema.optional "grantCount" "Number of CredentialGrants referencing this provider" <|
      .defaulting (Json.ofNat 0) (.integer .int32),
    Schema.optional "lastCredentialCheck"
      "Last time the master credential configuration was checked" (.nullable .instant)]

end ProviderSchema

/-- The definition of providers. -/
def providerDefinition : KindDefinition where
  kind := .ofNames operatorApiVersion providerKind
  shortName := "cprov"
  scope := .cluster
  columns := [
    ⟨"Provider", "string", ".spec.provider"⟩,
    ⟨"Auth Type", "string", ".spec.auth.type"⟩,
    ⟨"Grants", "integer", ".status.grantCount"⟩,
    ⟨"Ready", "string", ".status.conditions[?(@.type==\"Ready\")].status"⟩,
    ⟨"Age", "date", ".metadata.creationTimestamp"⟩]
  spec := ProviderSchema.spec
  status := ProviderSchema.status

end CredentialOperator
