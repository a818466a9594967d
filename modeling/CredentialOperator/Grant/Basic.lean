import CredentialOperator.Condition
import CredentialOperator.Resource.Metadata
import CredentialOperator.Selector

/-! # Credential grants

A grant is a tenant's request for a credential derived from that of a provider.  It names the
Secret to be made in its namespace, the pods that are to be given it and how, and it may set
an interval of rotation of its own.  Its status tells by two conditions how far the request
has come; the state of a grant is read off these.
-/

namespace CredentialOperator

/-- A variable of a container that takes its value from the artifact. -/
structure EnvMapping where
  /-- The name of the variable. -/
  name : String
  /-- The key in the artifact. -/
  secretKey : String
deriving DecidableEq, Repr

/-- A directory of a container that shows the artifact. -/
structure VolumeMapping where
  /-- Where it is mounted. -/
  mountPath : String
  /-- Whether it may only be read. -/
  readOnly : Bool := true
deriving DecidableEq, Repr

/-- How pods are given the artifact. -/
structure Injection where
  /-- As variables. -/
  env : List EnvMapping := []
  /-- As a directory. -/
  volume : Option VolumeMapping := none
deriving DecidableEq, Repr

/-- A grant's own policy of rotation. -/
structure GrantRotation where
  /-- The interval between rotations. -/
  interval : Option String := none
deriving DecidableEq, Repr

/-- What a grant asks for. -/
structure GrantSpec where
  /-- The name of the provider. -/
  provider : String
  /-- The capabilities asked for. -/
  capabilities : List String := []
  /-- The name of the artifact. -/
  secretName : String
  /-- The pods to be given the artifact; absent for none. -/
  workloadSelector : Option Selector := none
  /-- How they are given it. -/
  injection : Injection := {}
  /-- The policy of rotation. -/
  rotation : Option GrantRotation := none
deriving DecidableEq

/-- A reference to an artifact. -/
structure ArtifactReference where
  /-- Its kind. -/
  kind : String
  /-- Its namespace. -/
  ns : String
  /-- Its name. -/
  name : String
deriving DecidableEq, Repr

/-- What is known about a grant. -/
structure GrantStatus where
  /-- The conditions. -/
  conditions : List Condition := []
  /-- The artifact. -/
  secretRef : Option ArtifactReference := none
  /-- When the artifact was last made or rotated. -/
  lastRotation : Option Timestamp := none
  /-- When the next rotation is due. -/
  nextRotation : Option Timestamp := none
  /-- The capabilities granted. -/
  grantedCapabilities : List String := []
deriving DecidableEq

/-- A grant. -/
structure Grant where
  /-- The metadata. -/
  metadata : Metadata
  /-- What it asks for. -/
  spec : GrantSpec
  /-- What is known about it. -/
  status : Option GrantStatus := none
deriving DecidableEq

/-- The grant's own interval of rotation, if one is given. -/
def GrantSpec.rotationInterval? (s : GrantSpec) : Option String :=
  (s.rotation.bind (·.interval)).filter (!·.isEmpty)

/-! ## Conditions of a grant -/

/-- The aspects of a grant that conditions tell about. -/
inductive GrantConditionType where
  /-- The grant as a whole. -/
  | ready
  /-- The artifact. -/
  | credentialProvisioned
deriving DecidableEq, Repr

namespace GrantConditionType

/-- Every aspect, in the order in which they are listed. -/
def all : List GrantConditionType := [.ready, .credentialProvisioned]

/-- The text of an aspect. -/
def text : GrantConditionType → String
  | .ready => "Ready"
  | .credentialProvisioned => "CredentialProvisioned"

end GrantConditionType

/-- Why a condition of a grant stands as it does. -/
inductive GrantReason where
  /-- There is no such provider. -/
  | declarationNotFound
  /-- The provider does not serve the namespace. -/
  | namespaceNotAllowed
  /-- The provider does not allow a capability asked for. -/
  | capabilityNotAllowed
  /-- No strategy provides the provider's type of authentication. -/
  | strategyUnsupported
  /-- The artifact could not be made. -/
  | provisioningFailed
  /-- The artifact was made. -/
  | artifactProvisioned
  /-- Pods can be given the artifact. -/
  | credentialReady
deriving DecidableEq, Repr

namespace GrantReason

/-- Every reason, in the order in which they are listed. -/
def all : List GrantReason :=
  [.declarationNotFound, .namespaceNotAllowed, .capabilityNotAllowed, .strategyUnsupported,
    .provisioningFailed, .artifactProvisioned, .credentialReady]

/-- The text of a reason. -/
def text : GrantReason → String
  | .declarationNotFound => "DeclarationNotFound"
  | .namespaceNotAllowed => "NamespaceNotAllowed"
  | .capabilityNotAllowed => "CapabilityNotAllowed"
  | .strategyUnsupported => "StrategyUnsupported"
  | .provisioningFailed => "ProvisioningFailed"
  | .artifactProvisioned => "ArtifactProvisioned"
  | .credentialReady => "CredentialReady"

/-- Whether only an edit can make the reason go away. -/
def isPermanent : GrantReason → Bool
  | .namespaceNotAllowed | .capabilityNotAllowed => true
  | _ => false

/-- Whether a text is that of a permanent reason. -/
def isPermanentText (s : String) : Bool :=
  all.any fun r => r.isPermanent && r.text == s

end GrantReason

/-! ## The state of a grant -/

/-- How far a grant has come. -/
inductive GrantState where
  /-- Nothing is known yet. -/
  | pending
  /-- Something outside the grant is missing. -/
  | waiting
  /-- The grant is refused until it or its provider is edited. -/
  | rejectedPermanent
  /-- The artifact could not be made. -/
  | degraded
  /-- Pods can be given the artifact. -/
  | ready
  /-- Deletion was asked for. -/
  | terminating
deriving DecidableEq, Repr

namespace GrantState

/-- The name of a state. -/
def text : GrantState → String
  | .pending => "Pending"
  | .waiting => "Waiting"
  | .rejectedPermanent => "RejectedPermanent"
  | .degraded => "Degraded"
  | .ready => "Ready"
  | .terminating => "Terminating"

/-- The state that conditions tell. -/
def ofConditions (conditions : List Condition) : GrantState :=
  match Condition.find? conditions GrantConditionType.ready.text with
  | some c =>
    if c.status = .true then .ready
    else if GrantReason.isPermanentText c.reason then .rejectedPermanent
    else if c.reason = GrantReason.provisioningFailed.text then .degraded
    else .waiting
  | none =>
    match Condition.find? conditions GrantConditionType.credentialProvisioned.text with
    | some c => if c.status = .false then .degraded else .pending
    | none => .pending

end GrantState

namespace Grant

/-- The name of a grant. -/
def name (g : Grant) : String := g.metadata.displayName

/-- Where a grant stands. -/
def key (g : Grant) : ObjectKey := g.metadata.key

/-- What is known about a grant, or that nothing is. -/
def statusOrEmpty (g : Grant) : GrantStatus := g.status.getD {}

/-- Whether deletion was asked for. -/
def isDeleting (g : Grant) : Bool := g.metadata.deletionTimestamp.isSome

/-- The finalizers of a grant. -/
def finalizers (g : Grant) : List String := g.metadata.finalizers.getD []

/-- The state of a grant. -/
def state (g : Grant) : GrantState :=
  if g.isDeleting then .terminating else .ofConditions g.statusOrEmpty.conditions

end Grant

end CredentialOperator
