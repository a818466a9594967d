import CredentialOperator.Provision.Strategy
import CredentialOperator.Reconcile.Rotation

/-! # The pass over a grant

A grant that is not being deleted gets a finalizer first.  Then its provider must exist and
serve its namespace and its capabilities, and the provider's type of authentication must have
a strategy; only then an artifact is made.  What came of it is told by the conditions of the
grant, and an event is published when that changes.

A grant that is being deleted keeps its finalizer until its artifact was removed.
-/

namespace CredentialOperator

/-- Why a grant is refused before anything is made for it. -/
inductive Rejection where
  /-- There is no such provider. -/
  | providerNotFound (provider : String)
  /-- The provider does not serve the namespace, or the namespace cannot be read. -/
  | namespaceNotAllowed (ns provider : String)
  /-- The provider does not allow some of the capabilities asked for. -/
  | capabilitiesNotAllowed (disallowed allowed : List String) (provider : String)
  /-- There is no strategy for the provider's type of authentication. -/
  | strategyUnsupported (authType : AuthType)
deriving DecidableEq, Repr

namespace Rejection

/-- The reason in the condition of the grant. -/
def reason : Rejection → GrantReason
  | .providerNotFound _ => .declarationNotFound
  | .namespaceNotAllowed .. => .namespaceNotAllowed
  | .capabilitiesNotAllowed .. => .capabilityNotAllowed
  | .strategyUnsupported _ => .strategyUnsupported

/-- The wording of a rejection. -/
def message : Rejection → String
  | .providerNotFound provider => s!"CredentialProvider {provider} not found"
  | .namespaceNotAllowed ns provider =>
    s!"namespace {ns} is not allowed by CredentialProvider {provider}"
  | .capabilitiesNotAllowed disallowed allowed provider =>
    let asked := ", ".intercalate disallowed
    let offered := ", ".intercalate allowed
    s!"capabilities [{asked}] are not allowed by CredentialProvider {provider} " ++
      s!"(allowed: [{offered}])"
  | .strategyUnsupported authType => s!"auth type {authType.text} has no provisioning strategy"

/-- When to look at the grant again. -/
def action : Rejection → Action
  | .providerNotFound _ => .requeueSeconds 30
  | .namespaceNotAllowed .. | .capabilitiesNotAllowed .. => .awaitChange
  | .strategyUnsupported _ => .requeueSeconds 300

/-- The action that the event about a rejection names. -/
def eventAction (r : Rejection) : String :=
  if r.reason.isPermanent then Event.validate else Event.reconcile

end Rejection

namespace Grant

/-- Compares a grant with what its provider allows, the labels of its namespace given if the
namespace was found. -/
def gate (grant : Grant) (ns : String) (provider : Provider) (labels : Option StringMap) :
    Except Rejection Strategy :=
  let asked := grant.spec.provider
  let disallowed := provider.spec.disallowed grant.spec.capabilities
  if !labels.any provider.spec.servesNamespace then .error (.namespaceNotAllowed ns asked)
  else if !disallowed.isEmpty then
    .error (.capabilitiesNotAllowed disallowed provider.spec.allowedCapabilities asked)
  else
    match Strategy.ofProvider? provider with
    | some strategy => .ok strategy
    | none => .error (.strategyUnsupported provider.spec.auth.type)

/-! ## Statuses -/

/-- A condition of a grant, derived from its present generation. -/
def condition (grant : Grant) (now : Timestamp) (type : GrantConditionType) (holds : Bool)
    (reason : GrantReason) (message : String) : Condition where
  type := type.text
  status := .ofBool holds
  reason := reason.text
  message
  lastTransitionTime := now
  observedGeneration := grant.metadata.generation

/-- A status with one more condition entered. -/
def enter (grant : Grant) (now : Timestamp) (type : GrantConditionType) (holds : Bool)
    (reason : GrantReason) (message : String) (status : GrantStatus) : GrantStatus :=
  { status with
    conditions := Condition.set status.conditions (grant.condition now type holds reason message) }

/-- The status of a grant that was refused. -/
def rejectedStatus (grant : Grant) (now : Timestamp) (r : Rejection) : GrantStatus :=
  grant.statusOrEmpty |> grant.enter now .ready false r.reason r.message

/-- The status of a grant whose artifact could not be made. -/
def failedStatus (grant : Grant) (now : Timestamp) (message : String) : GrantStatus :=
  grant.statusOrEmpty
    |> grant.enter now .credentialProvisioned false .provisioningFailed message
    |> grant.enter now .ready false .provisioningFailed message

/-- The status of a grant whose artifact was made. -/
def provisionedStatus (grant : Grant) (now : Timestamp) (rotation : Rotation)
    (result : ProvisionResult) : GrantStatus :=
  { grant.statusOrEmpty with
      secretRef := some { kind := "Secret", ns := result.ns, name := result.name }
      lastRotation := some rotation.last
      nextRotation := rotation.next
      grantedCapabilities := grant.spec.capabilities }
    |> grant.enter now .credentialProvisioned true .artifactProvisioned
      s!"Secret {result.ns}/{result.name} provisioned"
    |> grant.enter now .ready true .credentialReady "credential is ready for injection"

end Grant

/-- Whether two statuses agree in all but the times in their conditions. -/
def GrantStatus.equivalent (a b : GrantStatus) : Bool :=
  Condition.equivalent a.conditions b.conditions && a.secretRef == b.secretRef &&
    a.grantedCapabilities == b.grantedCapabilities && a.lastRotation == b.lastRotation &&
    a.nextRotation == b.nextRotation

namespace GrantPass

/-- Writes a status unless the one that the grant has is as good; tells whether it was
written. -/
def updateStatus (grant : Grant) (ns : String) (status : GrantStatus) : Pass Bool :=
  if grant.status.any (·.equivalent status) then pure false
  else do
    Pass.send (.patchGrantStatus ⟨ns, grant.name⟩ status)
    pure true

/-- An event about a grant. -/
def event (grant : Grant) (type : EventType) (reason action note : String) : Event where
  type
  reason
  action
  note := some note
  regarding := grant.reference

/-- Refuses a grant. -/
def reject (now : Timestamp) (grant : Grant) (ns : String) (r : Rejection) : Pass Action := do
  if ← updateStatus grant ns (grant.rejectedStatus now r) then
    Pass.emit (event grant .warning r.reason.text r.eventAction r.message)
  Pass.note (.grantReadiness grant.spec.provider ns false)
  pure r.action

/-- Tells that the artifact could not be made. -/
def onFailed (now : Timestamp) (grant : Grant) (ns : String) (failure : ProvisionFailure) :
    Pass Action := do
  Pass.note (.provisioning grant.spec.provider ns false)
  Pass.note (.rotationError grant.spec.provider ns failure.isRetryable)
  if ← updateStatus grant ns (grant.failedStatus now failure.message) then
    Pass.emit (event grant .warning GrantReason.provisioningFailed.text Event.provision
      failure.message)
  Pass.note (.grantReadiness grant.spec.provider ns false)
  pure (.requeueSeconds 30)

/-- Tells that the artifact was made, and takes care of the schedule of rotations.  The health
of the artifact is looked at last, but changes nothing. -/
def onProvisioned (now : Timestamp) (grant : Grant) (ns : String) (provider : Provider)
    (strategy : Strategy) (result : ProvisionResult) : Pass Action := do
  let interval := rotationInterval? grant.spec provider.spec
  let rotation := Rotation.plan now grant.statusOrEmpty interval
  if rotation.due then
    Pass.note (.rotation provider.name ns)
  if ← updateStatus grant ns (grant.provisionedStatus now rotation result) then
    if grant.state ≠ .ready then
      Pass.emit (event grant .normal GrantReason.credentialReady.text Event.provision
        s!"Secret {result.ns}/{result.name} is ready")
  Pass.note (.provisioning provider.name ns true)
  Pass.note (.grantReadiness provider.name ns true)
  Pass.note (.credentialAge provider.name ns grant.name (Rotation.millisBetween rotation.last now))
  if let some next := rotation.next then
    Pass.note (.nextRotation provider.name ns grant.name (Rotation.millisBetween now next))
  let _ ← ExceptT.lift (strategy.healthCheck now provider grant).run
  pure (Rotation.wake now interval rotation.next)

/-- Makes the artifact of a grant. -/
def provision (now : Timestamp) (grant : Grant) (ns : String) (provider : Provider)
    (strategy : Strategy) : Pass Action := do
  match ← ExceptT.lift (strategy.provision now provider grant).run with
  | .ok result => onProvisioned now grant ns provider strategy result
  | .error failure => onFailed now grant ns failure

/-- Serves a grant that is not being deleted and has its finalizer. -/
def serve (now : Timestamp) (grant : Grant) (ns : String) : Pass Action := do
  match ← Pass.send (.getProvider grant.spec.provider) with
  | none => reject now grant ns (.providerNotFound grant.spec.provider)
  | some provider =>
    let labels ← Pass.send (.getNamespaceLabels ns)
    match grant.gate ns provider labels with
    | .error r => reject now grant ns r
    | .ok strategy => provision now grant ns provider strategy

/-- Removes the artifact of a grant. -/
def cleanup (grant : Grant) (ns : String) (strategy : Strategy) : Pass Unit := do
  match ← ExceptT.lift (strategy.cleanup grant).run with
  | .ok () =>
    Pass.emit (event grant .normal Event.cleanupComplete Event.cleanup
      s!"Secret {ns}/{grant.spec.secretName} removed")
  | .error failure =>
    Pass.emit (event grant .warning Event.cleanupFailed Event.cleanup failure.message)
    throw (.ofFailure failure.toFailure)

/-- The strategy that removes the artifact of a grant whose provider may be gone. -/
def cleanupStrategy? : Option Provider → Option Strategy
  | some provider => Strategy.ofProvider? provider
  | none => some .fallback

/-- Whether a grant has the operator's finalizer. -/
def hasFinalizer (grant : Grant) : Bool := grant.finalizers.contains cleanupFinalizer

/-- Takes leave of a grant that is being deleted. -/
def release (grant : Grant) (ns : String) : Pass Action := do
  if hasFinalizer grant then
    let provider ← Pass.send (.getProvider grant.spec.provider)
    if let some strategy := cleanupStrategy? provider then
      cleanup grant ns strategy
    Pass.send (.removeFinalizer ⟨ns, grant.name⟩ cleanupFinalizer)
  pure .awaitChange

/-- The pass without its measurement. -/
def body (now : Timestamp) (grant : Grant) : Pass Action :=
  match grant.metadata.ns with
  | none => throw (.validation s!"CredentialGrant {grant.name} has no namespace")
  | some ns =>
    if grant.isDeleting then release grant ns
    else if hasFinalizer grant then serve now grant ns
    else do
      Pass.send (.addFinalizer ⟨ns, grant.name⟩ cleanupFinalizer)
      pure (.requeueSeconds 0)

end GrantPass

/-- The pass over a grant. -/
def reconcileGrant (now : Timestamp) (grant : Grant) : Pass Action :=
  Pass.measured .grants (GrantPass.body now grant)

end CredentialOperator
