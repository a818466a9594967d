import CredentialOperator.Install.CommonSchema
import CredentialOperator.Install.Definition

/-! # The definition of grants -/

namespace CredentialOperator

namespace GrantSchema

/-- What the schema says about grants as a whole. -/
def summary : String :=
  "CredentialGrant requests a derived credential for workloads in one namespace.\n\n" ++
  "Example: \x60\x60\x60yaml apiVersion: keygate.dev/v1alpha1 kind: CredentialGrant " ++
  "metadata: name: chatbot-openai namespace: team-a spec: providerRef: name: openai-prod " ++
  "capabilities: [gpt-4o] secretName: chatbot-openai-key workloadSelector: matchLabels: " ++
  "app: chatbot injection: env: - name: OPENAI_API_KEY secretKey: apiKey rotation: " ++
  "interval: 7d \x60\x60\x60"

/-- How a credential is given to pods. -/
def injection : Schema :=
  .record [
    Schema.optional "env" "Environment variables sourced from artifact keys" <| .list <|
      .described "Environment variable mapped to an artifact key" <| Schema.texts [
        ("name", "Variable name inside the container"),
        ("secretKey", "Key in the artifact Secret")],
    Schema.optional "volume" "Mount the whole artifact as files" <| .nullable <| .record [
      Schema.required "mountPath" "Absolute mount path inside each container" .string,
      Schema.optional "readOnly" "Mount read-only (default true)" <|
        .defaulting (.bool true) .boolean]]

/-- What a grant declares. -/
def spec : Schema :=
  .described summary <| .record [
    Schema.optional "capabilities" "Requested capability identifiers" (.list .string),
    Schema.optional "injection" "How the credential is exposed to matching pods" <|
      .defaulting (.object []) injection,
    Schema.required "providerRef" "Provider this grant draws from" <|
      Schema.texts [("name", "Provider name")],
    Schema.optional "rotation"
      "Rotation override; takes precedence over the provider's interval" <| .nullable <|
      .record [Schema.optional "interval" "Interval between rotations (e.g., \"6h\")" <|
        .nullable .string],
    Schema.required "secretName"
      "Name of the Secret to materialize in the grant's namespace" .string,
    Schema.optional "workloadSelector"
      "Pods to inject into; absent means the credential is never injected" <|
      .nullable Schema.selector]

/-- What is observed of a grant. -/
def status : Schema :=
  .described "CredentialGrant status" <| .nullable <| .record [
    Schema.conditions,
    Schema.optional "grantedCapabilities" "Capabilities actually granted" (.list .string),
    Schema.optional "lastRotation" "When the artifact was last provisioned" <|
      .nullable .instant,
    Schema.optional "nextRotation" "When the next rotation is due" (.nullable .instant),
    Schema.optional "secretRef" "Materialized artifact" <| .nullable <| Schema.texts [
      ("kind", "Always \"Secret\""),
      ("name", "Artifact name"),
      ("namespace", "Artifact namespace")]]

end GrantSchema

/-- The definition of grants. -/
def grantDefinition : KindDefinition where
  kind := .ofNames operatorApiVersion grantKind
  shortName := "cgrant"
  scope := .namespaced
  columns := [
    ⟨"Provider", "string", ".spec.providerRef.name"⟩,
    ⟨"Secret", "string", ".spec.secretName"⟩,
    ⟨"Ready", "string", ".status.conditions[?(@.type==\"Ready\")].status"⟩,
    ⟨"Last Rotation", "date", ".status.lastRotation"⟩,
    ⟨"Age", "date", ".metadata.creationTimestamp"⟩]
  spec := GrantSchema.spec
  status := GrantSchema.status

end CredentialOperator
