import CredentialOperator.ExternalSecret.Sync
import CredentialOperator.Provision.Artifact
import CredentialOperator.Time.Interval

/-! # Leaving the copy to the External Secrets Operator

The strategy for values of an external store: an ExternalSecret is written that bears the
name of the grant's artifact, and the External Secrets Operator makes the Secret.
-/

namespace CredentialOperator.DelegatedSync

/-- The interval of refreshing when neither the grant nor the provider gives one. -/
def defaultRefreshInterval : String := "1h"

/-- The interval of refreshing: the grant's own, written in hours or minutes, if it is an
interval; else the provider's, as it is written; else the usual one. -/
def refreshInterval (grant provider : Option String) : String :=
  match Interval.parse? grant with
  | some i => i.hoursOrMinutes
  | none => (provider.filter (!·.isEmpty)).getD defaultRefreshInterval

/-- The request for the artifact of a grant. -/
def syncRequest (config : ExternalSecretAuth) (grant : Grant) : SyncRequest where
  refreshInterval := refreshInterval grant.spec.rotationInterval? config.refreshInterval
  store := config.store
  target := grant.spec.secretName
  creationPolicy := .owner
  data := [{
    secretKey := apiKeyKey
    remoteKey := config.remoteRef.key
    property := config.remoteRef.property
    version := config.remoteRef.version }]

/-- The text of a truth value. -/
def boolText (b : Bool) : String := if b then "true" else "false"

/-- The facts told about an object that was written. -/
def facts (provider : Provider) (request : SyncRequest) (sync : SyncStatus) : StringMap :=
  ((((provider.facts.insert "store" request.store.name).insert "storeKind"
    request.store.kind.text).insert "refreshInterval" request.refreshInterval).insert
    "syncReady" (boolText sync.ready)).insert "syncMessage" sync.message

/-- Writes the ExternalSecret of a grant. -/
def provision (now : Timestamp) (provider : Provider) (grant : Grant) :
    Provisioning ProvisionResult := do
  let some config := provider.spec.auth.externalSecret
    | throw (.missingConfig provider.name)
  let ns ← Provisioning.namespaceOf grant
  let target := grant.artifactKey ns
  let request := syncRequest config grant
  let object ←
    ExceptT.mk (pure (request.build ns grant.spec.secretName (grant.artifactLabels provider)))
  let metadata := { object.metadata with ownerReferences := grant.artifactOwners? }
  let stored ← Provisioning.send s!"failed to apply ExternalSecret {target.text}"
    (.applyDynamic externalSecretKind target { object with metadata })
  let sync := SyncStatus.ofObject stored
  pure {
    name := grant.spec.secretName
    ns
    keys := [apiKeyKey]
    needsRotation := false
    provisionedAt := now
    facts := facts provider request sync }

/-- Removes the ExternalSecret of a grant, with which the Secret goes away. -/
def cleanup (grant : Grant) : Provisioning Unit := do
  let ns ← Provisioning.namespaceOf grant
  let target := grant.artifactKey ns
  let _ ← Provisioning.send s!"failed to delete ExternalSecret {target.text}"
    (.deleteDynamic externalSecretKind target)

/-- The report on an ExternalSecret with the given status. -/
def report (sync : SyncStatus) : HealthReport where
  healthy := sync.ready
  message := sync.message
  warnings :=
    if sync.ready then [] else [s!"ExternalSecret not yet synced by ESO: {sync.message}"]
  facts := (∅ : StringMap).insert "syncReady" (boolText sync.ready)

/-- Looks how far the copying for a grant has come. -/
def healthCheck (grant : Grant) : Provisioning HealthReport := do
  let ns ← Provisioning.namespaceOf grant
  let target := grant.artifactKey ns
  let object ← Provisioning.send s!"failed to get ExternalSecret {target.text}"
    (.getDynamic externalSecretKind target)
  match object with
  | none => pure (.unhealthy "ExternalSecret not found")
  | some object => pure (report (SyncStatus.ofObject object))

end CredentialOperator.DelegatedSync
