import CredentialOperator.Provision.Artifact
import CredentialOperator.Time.Interval

/-! # Copying the master key

The strategy for keys held in a Secret: the key is copied, with the provider's type and its
base address, into a Secret that the grant owns.  Applying it again puts the Secret back into
the same form, whatever became of it.
-/

namespace CredentialOperator.DirectCopy

/-- The age beyond which an artifact is old, when rotation is enabled. -/
def rotationCheckAge : Delay := .ofSeconds (24 * 60 * 60)

/-- The age beyond which the report on an artifact warns of its rotation. -/
def rotationWarningAge : Delay := .ofSeconds (25 * 24 * 60 * 60)

/-- The age of a Secret; there is none for one from the future. -/
def age? (now : Timestamp) (secret : Secret) : Option Delay :=
  match secret.metadata.creationTimestamp with
  | some created =>
    let nanos := now.since created
    if 0 ≤ nanos then some ⟨nanos.toNat⟩ else none
  | none => none

/-- Whether a Secret that may be missing is older than a given age. -/
def isOlder (now : Timestamp) (limit : Delay) (secret : Option Secret) : Bool :=
  match secret.bind (age? now) with
  | some age => limit.nanos < age.nanos
  | none => false

/-- The data of an artifact: the key, the type of the provider, and the base address if there
is one. -/
def artifactData (provider : Provider) (value : List UInt8) : SecretData :=
  let data := (∅ : SecretData).insert apiKeyKey value
  let data := match provider.spec.baseUrl? with
    | some url => data.insert baseUrlKey (Secret.bytesOf url)
    | none => data
  data.insert providerKey (Secret.bytesOf provider.spec.provider.text)

/-- The artifact of a grant. -/
def artifact (provider : Provider) (grant : Grant) (ns : String) (value : List UInt8) :
    Secret where
  metadata := grant.artifactMetadata provider ns
  data := some (artifactData provider value)
  type := some "Opaque"

/-- The facts told about an artifact that was made. -/
def facts (provider : Provider) (source target : ObjectKey) : StringMap :=
  (provider.facts.insert "sourceSecret" source.text).insert "targetSecret" target.text

/-- Copies the key of the provider into the artifact of a grant. -/
def provision (now : Timestamp) (provider : Provider) (grant : Grant) :
    Provisioning ProvisionResult := do
  let some apiKey := provider.spec.auth.apiKey
    | throw (.missingConfig provider.name)
  let ns ← Provisioning.namespaceOf grant
  let source := apiKey.secretRef
  let target := grant.artifactKey ns
  let master ← Provisioning.send
    s!"failed to get source secret {source.secretKey.text} for {target.text}"
    (.getSecret source.secretKey)
  let some master := master
    | throw (.sourceSecretNotFound source.ns source.name)
  let some value := master.get? source.key
    | throw (.sourceKeyMissing source.ns source.name source.key)
  let existing ← Provisioning.send s!"failed to get Secret {target.text}" (.getSecret target)
  let secret := artifact provider grant ns value
  Provisioning.send s!"failed to apply Secret {target.text}" (.applySecret target secret)
  pure {
    name := grant.spec.secretName
    ns
    keys := (artifactData provider value).keys
    needsRotation := provider.spec.rotationEnabled && isOlder now rotationCheckAge existing
    provisionedAt := now
    facts := facts provider source.secretKey target }

/-- Removes the artifact of a grant; one that is gone already is as good as removed. -/
def cleanup (grant : Grant) : Provisioning Unit := do
  let ns ← Provisioning.namespaceOf grant
  let target := grant.artifactKey ns
  let _ ← Provisioning.send s!"failed to delete Secret {target.text}" (.deleteSecret target)

/-- The warning about the master Secret of a provider, if it cannot be read. -/
def sourceWarnings (provider : Provider) : Provisioning (List String) :=
  match provider.spec.auth.apiKey with
  | none => pure []
  | some apiKey =>
    let source := apiKey.secretRef.secretKey
    ExceptT.mk do
      match ← Program.send (.getSecret source) with
      | .ok (some _) => pure (.ok [])
      | _ => pure (.ok [s!"Source secret {source.text} not accessible"])

/-- What the age of an artifact adds to the report on it. -/
def ageFacts (age : Option Delay) : StringMap :=
  match age with
  | some age => (∅ : StringMap).insert "secretAge" s!"{age.seconds}s"
  | none => ∅

/-- Looks whether the artifact of a grant is there and holds a key. -/
def healthCheck (now : Timestamp) (provider : Provider) (grant : Grant) :
    Provisioning HealthReport := do
  let ns ← Provisioning.namespaceOf grant
  let target := grant.artifactKey ns
  let secret ← Provisioning.send s!"failed to get Secret {target.text}" (.getSecret target)
  match secret with
  | none => pure (.unhealthy "Secret not found")
  | some secret =>
    if secret.holds apiKeyKey then
      let warnings ← sourceWarnings provider
      let nearing :=
        if provider.spec.rotationEnabled && isOlder now rotationWarningAge (some secret) then
          ["Secret is nearing rotation interval"]
        else []
      pure {
        healthy := true
        message := "Secret exists and contains valid API key"
        warnings := warnings ++ nearing
        facts := ageFacts (age? now secret) }
    else pure (.unhealthy "API key not found in secret")

end CredentialOperator.DirectCopy
