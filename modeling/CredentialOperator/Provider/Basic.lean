import CredentialOperator.Condition
import CredentialOperator.Failure.Basic
import CredentialOperator.Resource.Metadata
import CredentialOperator.Selector
import CredentialOperator.Text.Lowercase

/-! # Credential providers

A provider declares an upstream service and where its master credential is found.  It may
limit the namespaces whose grants it serves and the capabilities that grants may ask for.
Of the blocks that describe authentication only the one that its type names counts.
-/

namespace CredentialOperator

/-! ## Parts of a provider -/

/-- The family of services a provider is for. -/
inductive ProviderType where
  /-- The OpenAI interface. -/
  | openAi
  /-- The Anthropic interface. -/
  | anthropic
  /-- Bedrock. -/
  | awsBedrock
  /-- OpenAI models served by Azure. -/
  | azureOpenAi
  /-- Vertex AI. -/
  | gcpVertexAi
  /-- Anything else with a key. -/
  | custom
deriving DecidableEq, Repr

namespace ProviderType

/-- Every type, in the order in which they are listed. -/
def all : List ProviderType :=
  [.openAi, .anthropic, .awsBedrock, .azureOpenAi, .gcpVertexAi, .custom]

/-- The text of a type. -/
def text : ProviderType → String
  | .openAi => "openai"
  | .anthropic => "anthropic"
  | .awsBedrock => "aws-bedrock"
  | .azureOpenAi => "azure-openai"
  | .gcpVertexAi => "gcp-vertexai"
  | .custom => "custom"

/-- Reads a type, as it is written. -/
def ofText? (s : String) : Option ProviderType := all.find? (·.text = s)

/-- Reads a type without regard to case. -/
def parse (s : String) : Except Failure ProviderType :=
  match ofText? (Text.lowercase s) with
  | some t => .ok t
  | none =>
    let names := ", ".intercalate (all.map text)
    .error (.invalid s!"invalid provider type: {s}, expected one of: {names}")

@[simp] theorem ofText?_text (t : ProviderType) : ofText? t.text = some t := by
  cases t <;> rfl

end ProviderType

/-- How the master credential is obtained. -/
inductive AuthType where
  /-- From a Secret of the platform. -/
  | apiKey
  /-- From an external store, by way of the External Secrets Operator. -/
  | externalSecret
  /-- From the identity of the workload; declared, but not provided. -/
  | workloadIdentity
deriving DecidableEq, Repr

namespace AuthType

/-- The text of a type of authentication. -/
def text : AuthType → String
  | .apiKey => "apiKey"
  | .externalSecret => "externalSecret"
  | .workloadIdentity => "workloadIdentity"

/-- Reads a type of authentication. -/
def ofText? (s : String) : Option AuthType :=
  [.apiKey, .externalSecret, .workloadIdentity].find? (·.text = s)

@[simp] theorem ofText?_text (t : AuthType) : ofText? t.text = some t := by
  cases t <;> rfl

end AuthType

/-- How a rotation is carried out. -/
inductive RotationStrategy where
  /-- The service is asked for a new key. -/
  | providerApi
  /-- The artifact is made again from the master Secret. -/
  | recreateSecret
deriving DecidableEq, Repr

namespace RotationStrategy

/-- The strategy of a rotation that names none. -/
def default : RotationStrategy := .providerApi

/-- The text of a strategy. -/
def text : RotationStrategy → String
  | .providerApi => "providerAPI"
  | .recreateSecret => "recreateSecret"

/-- Reads a strategy. -/
def ofText? (s : String) : Option RotationStrategy :=
  [.providerApi, .recreateSecret].find? (·.text = s)

@[simp] theorem ofText?_text (t : RotationStrategy) : ofText? t.text = some t := by
  cases t <;> rfl

end RotationStrategy

/-- The kinds of external stores. -/
inductive StoreKind where
  /-- A store of one namespace. -/
  | secretStore
  /-- A store of the whole cluster. -/
  | clusterSecretStore
deriving DecidableEq, Repr

namespace StoreKind

/-- The text of a kind of store. -/
def text : StoreKind → String
  | .secretStore => "SecretStore"
  | .clusterSecretStore => "ClusterSecretStore"

/-- Reads a kind of store. -/
def ofText? (s : String) : Option StoreKind :=
  [.secretStore, .clusterSecretStore].find? (·.text = s)

@[simp] theorem ofText?_text (t : StoreKind) : ofText? t.text = some t := by
  cases t <;> rfl

end StoreKind

/-- One key of a Secret in a namespace. -/
structure SecretKeyReference where
  /-- The name of the Secret. -/
  name : String
  /-- Its namespace. -/
  ns : String
  /-- The key in its data. -/
  key : String
deriving DecidableEq, Repr

/-- Where the Secret of a reference stands. -/
def SecretKeyReference.secretKey (r : SecretKeyReference) : ObjectKey := ⟨r.ns, r.name⟩

/-- A policy of rotation. -/
structure RotationPolicy where
  /-- Whether keys are rotated by time. -/
  enabled : Bool := false
  /-- The interval between rotations. -/
  interval : Option String := none
  /-- How a rotation is carried out. -/
  strategy : Option RotationStrategy := none
deriving DecidableEq, Repr

/-- Authentication by a key that a Secret holds. -/
structure ApiKeyAuth where
  /-- The master key. -/
  secretRef : SecretKeyReference
  /-- The policy of rotation. -/
  rotation : Option RotationPolicy := none
deriving DecidableEq, Repr

/-- An external store. -/
structure StoreReference where
  /-- The name of the store. -/
  name : String
  /-- Its kind. -/
  kind : StoreKind
deriving DecidableEq, Repr

/-- A place in an external store. -/
structure RemoteReference where
  /-- The key or path. -/
  key : String
  /-- A property of the object stored there. -/
  property : Option String := none
  /-- A version of it. -/
  version : Option String := none
deriving DecidableEq, Repr

/-- Authentication by a value of an external store. -/
structure ExternalSecretAuth where
  /-- The store. -/
  store : StoreReference
  /-- The place in the store. -/
  remoteRef : RemoteReference
  /-- How often the value is refreshed. -/
  refreshInterval : Option String := none
deriving DecidableEq, Repr

/-- A role in AWS. -/
structure AwsIdentity where
  /-- The name of the role. -/
  roleArn : String
  /-- The region. -/
  region : String
deriving DecidableEq, Repr

/-- An identity in Azure. -/
structure AzureIdentity where
  /-- The client. -/
  clientId : String
  /-- The tenant. -/
  tenantId : String
  /-- A managed identity assigned by a user. -/
  managedIdentityResourceId : Option String := none
deriving DecidableEq, Repr

/-- A service account in GCP. -/
structure GcpIdentity where
  /-- The address of the account. -/
  serviceAccountEmail : String
  /-- The project. -/
  projectId : String
deriving DecidableEq, Repr

/-- Authentication by the identity of the workload. -/
structure WorkloadIdentityAuth where
  /-- The identity in AWS. -/
  aws : Option AwsIdentity := none
  /-- The identity in Azure. -/
  azure : Option AzureIdentity := none
  /-- The identity in GCP. -/
  gcp : Option GcpIdentity := none
deriving DecidableEq, Repr

/-- How a provider authenticates. -/
structure Auth where
  /-- Which of the blocks counts. -/
  type : AuthType
  /-- The block for keys held in a Secret. -/
  apiKey : Option ApiKeyAuth := none
  /-- The block for values of an external store. -/
  externalSecret : Option ExternalSecretAuth := none
  /-- The block for identities of workloads. -/
  workloadIdentity : Option WorkloadIdentityAuth := none
deriving DecidableEq, Repr

/-- Limits that are told to consumers. -/
structure RateLimit where
  /-- Requests per minute. -/
  requestsPerMinute : Option Nat := none
  /-- Tokens per minute. -/
  tokensPerMinute : Option Nat := none
deriving DecidableEq, Repr

/-- An endpoint other than the usual one. -/
structure Endpoint where
  /-- The base of its addresses; empty for the usual one. -/
  baseUrl : Option String := none
deriving DecidableEq, Repr

/-! ## Providers -/

/-- What a provider declares. -/
structure ProviderSpec where
  /-- The service. -/
  provider : ProviderType
  /-- How the master credential is obtained. -/
  auth : Auth
  /-- The capabilities that grants may ask for; empty for all. -/
  allowedCapabilities : List String := []
  /-- Limits told to consumers. -/
  rateLimit : Option RateLimit := none
  /-- The namespaces whose grants are served; absent for all. -/
  namespaceSelector : Option Selector := none
  /-- The endpoint. -/
  endpoint : Option Endpoint := none
deriving DecidableEq

/-- What is known about a provider. -/
structure ProviderStatus where
  /-- The conditions. -/
  conditions : List Condition := []
  /-- When the credential was last checked. -/
  lastCredentialCheck : Option Timestamp := none
  /-- The number of grants that refer to the provider. -/
  grantCount : Int := 0
deriving DecidableEq

/-- A provider. -/
structure Provider where
  /-- The metadata. -/
  metadata : Metadata
  /-- What it declares. -/
  spec : ProviderSpec
  /-- What is known about it. -/
  status : Option ProviderStatus := none
deriving DecidableEq

/-- The name of a provider. -/
def Provider.name (p : Provider) : String := p.metadata.displayName

namespace ProviderSpec

/-- The base of the endpoint's addresses, if another than the usual one is declared. -/
def baseUrl? (s : ProviderSpec) : Option String :=
  (s.endpoint.bind (·.baseUrl)).filter (!·.isEmpty)

/-- Whether grants of a namespace with these labels are served.  A selector that is not valid
lets no namespace in. -/
def servesNamespace (s : ProviderSpec) (labels : StringMap) : Bool :=
  match s.namespaceSelector with
  | none => true
  | some selector => selector.isValid && selector.accepts labels

/-- The capabilities of a request that the provider does not allow, in the order asked. -/
def disallowed (s : ProviderSpec) (requested : List String) : List String :=
  if s.allowedCapabilities.isEmpty then []
  else requested.filter fun c => !s.allowedCapabilities.contains c

/-- The policy of rotation of the key. -/
def rotation? (s : ProviderSpec) : Option RotationPolicy :=
  s.auth.apiKey.bind (·.rotation)

/-- Whether keys are rotated by time. -/
def rotationEnabled (s : ProviderSpec) : Bool :=
  match s.rotation? with
  | some policy => policy.enabled
  | none => false

/-- The interval between rotations, if they are enabled and one is given. -/
def rotationInterval? (s : ProviderSpec) : Option String :=
  ((s.rotation?.filter (·.enabled)).bind (·.interval)).filter (!·.isEmpty)

end ProviderSpec

/-- Why a provider is or is not able to serve grants. -/
inductive ProviderReason where
  /-- The master Secret holds the declared key. -/
  | secretFound
  /-- There is no master Secret. -/
  | secretNotFound
  /-- The master Secret could not be read. -/
  | secretGetError
  /-- The master Secret lacks the declared key. -/
  | secretKeyMissing
  /-- The block of the declared type is missing or incomplete. -/
  | invalidConfig
  /-- A store and a place in it are declared. -/
  | externalSecretConfigured
  /-- Identities of workloads are taken as they are. -/
  | workloadIdentityNotValidated
deriving DecidableEq, Repr

/-- The text of a reason. -/
def ProviderReason.text : ProviderReason → String
  | .secretFound => "SecretFound"
  | .secretNotFound => "SecretNotFound"
  | .secretGetError => "SecretGetError"
  | .secretKeyMissing => "SecretKeyMissing"
  | .invalidConfig => "InvalidConfig"
  | .externalSecretConfigured => "ExternalSecretConfigured"
  | .workloadIdentityNotValidated => "WorkloadIdentityNotValidated"

end CredentialOperator
