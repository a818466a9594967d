import CredentialOperator.Provider.Codec
import CredentialOperator.Reconcile.Pass
import CredentialOperator.Text.Quoted

/-! # The pass over a provider

A provider is healthy when its block of authentication is complete and, for keys held in a
Secret, the Secret holds the declared key.  The pass tells this by the condition `Ready`,
counts the grants that refer to the provider, and comes back after five minutes.
-/

namespace CredentialOperator

/-- What came of the check of a provider. -/
structure CredentialCheck where
  /-- Whether the provider can serve grants. -/
  healthy : Bool
  /-- Why, for programs. -/
  reason : ProviderReason
  /-- Why, for people. -/
  message : String
deriving DecidableEq, Repr

namespace CredentialCheck

/-- The check of a provider without the block that its type names, or with an incomplete
one. -/
def invalidConfig (message : String) : CredentialCheck := ⟨false, .invalidConfig, message⟩

/-- What the outcome of reading the master Secret tells. -/
def ofSecret (ref : SecretKeyReference) : Except ApiFailure (Option Secret) → CredentialCheck
  | .ok (some secret) =>
    let key := Text.quoted ref.key
    if secret.holds ref.key then
      ⟨true, .secretFound,
        s!"provider secret {ref.secretKey.text} exists and contains key {key}"⟩
    else ⟨false, .secretKeyMissing, s!"key {key} not found in secret {ref.secretKey.text}"⟩
  | .ok none => ⟨false, .secretNotFound, s!"provider secret {ref.secretKey.text} not found"⟩
  | .error cause =>
    ⟨false, .secretGetError,
      s!"failed to get provider secret {ref.secretKey.text}: " ++ (Failure.cluster cause).message⟩

/-- The check of a place in an external store. -/
def ofExternalSecret (auth : ExternalSecretAuth) : CredentialCheck :=
  if auth.store.name.isEmpty then
    invalidConfig "spec.auth.externalSecret.store.name must not be empty"
  else if auth.remoteRef.key.isEmpty then
    invalidConfig "spec.auth.externalSecret.remoteRef.key must not be empty"
  else
    ⟨true, .externalSecretConfigured,
      s!"ExternalSecret configured: {auth.store.kind.text}/{auth.store.name} -> " ++
        auth.remoteRef.key⟩

end CredentialCheck

/-- Checks whether a provider can serve grants. -/
def checkCredential (provider : Provider) : Program CredentialCheck :=
  match provider.spec.auth.type with
  | .apiKey =>
    match provider.spec.auth.apiKey with
    | some auth => do
      pure (.ofSecret auth.secretRef (← Program.send (.checkSecret auth.secretRef.secretKey)))
    | none =>
      pure (.invalidConfig "spec.auth.apiKey is required when spec.auth.type is apiKey")
  | .externalSecret =>
    match provider.spec.auth.externalSecret with
    | some auth => pure (.ofExternalSecret auth)
    | none =>
      pure (.invalidConfig
        "spec.auth.externalSecret is required when spec.auth.type is externalSecret")
  | .workloadIdentity =>
    pure ⟨true, .workloadIdentityNotValidated, "workloadIdentity auth accepted without validation"⟩

namespace ProviderPass

/-- The type of the condition of a provider. -/
def readyType : String := "Ready"

/-- The age in seconds at which the date of the last check is renewed. -/
def checkRefreshAge : Delay := .ofSeconds 240

/-- The largest count that a status can show. -/
def largestCount : Nat := 0x7FFFFFFF

/-- The condition that a check leads to. -/
def condition (now : Timestamp) (provider : Provider) (check : CredentialCheck) :
    Condition where
  type := readyType
  status := .ofBool check.healthy
  reason := check.reason.text
  message := check.message
  lastTransitionTime := now
  observedGeneration := provider.metadata.generation

/-- The status after a check; a failed count leaves the old one. -/
def statusAfter (now : Timestamp) (provider : Provider) (check : CredentialCheck)
    (count : Option Nat) : ProviderStatus :=
  let current := provider.status.getD {}
  { current with
    conditions := Condition.set current.conditions (condition now provider check)
    grantCount :=
      match count with
      | some n => Nat.min n largestCount
      | none => current.grantCount }

/-- Whether the date of the last check is missing, in the future, or old. -/
def isStale (now : Timestamp) (status : ProviderStatus) : Bool :=
  match status.lastCredentialCheck with
  | some last =>
    let age := now.since last
    age < 0 || checkRefreshAge.nanos ≤ age.toNat
  | none => true

/-- Whether two statuses differ in what a check tells. -/
def differs (a b : ProviderStatus) : Bool :=
  !Condition.equivalent a.conditions b.conditions || a.grantCount != b.grantCount

/-- Whether the provider was healthy by its last condition, if it has one. -/
def wasHealthy? (provider : Provider) : Option Bool :=
  (Condition.find? (provider.status.getD {}).conditions readyType).map (·.status = .true)

/-- The event about a check, when it changes what was known. -/
def event? (provider : Provider) (check : CredentialCheck) : Option Event :=
  let build (type : EventType) (reason : String) : Event := {
    type
    reason
    action := Event.validate
    note := some check.message
    regarding := provider.reference }
  match check.healthy, wasHealthy? provider with
  | true, some false => some (build .normal Event.providerHealthy)
  | false, some true | false, none => some (build .warning Event.providerUnhealthy)
  | _, _ => none

/-- The pass without its measurement. -/
def body (now : Timestamp) (provider : Provider) : Pass Action := do
  let check ← ExceptT.lift (checkCredential provider)
  Pass.note (.providerHealth provider.name provider.spec.provider.text check.healthy)
  let grants ← ExceptT.lift (Program.send (.listGrantsOf provider.name))
  let current := provider.status.getD {}
  let status := statusAfter now provider check (grants.toOption.map List.length)
  if differs current status || isStale now current then
    Pass.send (.patchProviderStatus provider.name { status with lastCredentialCheck := some now })
  if let some event := event? provider check then
    Pass.emit event
  pure (.requeueSeconds 300)

end ProviderPass

/-- The pass over a provider. -/
def reconcileProvider (now : Timestamp) (provider : Provider) : Pass Action :=
  Pass.measured .providers (ProviderPass.body now provider)

end CredentialOperator
