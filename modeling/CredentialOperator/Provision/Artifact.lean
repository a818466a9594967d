import CredentialOperator.Cluster.Program
import CredentialOperator.Resource.Owner

/-! # Artifacts

What the strategies of provisioning have in common: the metadata of the object that is made
for a grant, what is told about a success, and the report on the health of an artifact.
-/

namespace CredentialOperator

/-- A program that ends with a result or with the reason why a credential could not be
provided. -/
abbrev Provisioning (α : Type) : Type := ExceptT ProvisionFailure Program α

/-- What is told about an artifact that was made. -/
structure ProvisionResult where
  /-- The name of the artifact. -/
  name : String
  /-- Its namespace. -/
  ns : String
  /-- The keys that it shows. -/
  keys : List String
  /-- Whether the artifact it replaced was old. -/
  needsRotation : Bool
  /-- When it was made. -/
  provisionedAt : Timestamp
  /-- Further facts. -/
  facts : StringMap
deriving DecidableEq

/-- The health of an artifact. -/
structure HealthReport where
  /-- Whether the artifact is there and can be used. -/
  healthy : Bool
  /-- A summary. -/
  message : String
  /-- What is wrong without making it useless. -/
  warnings : List String := []
  /-- Further facts. -/
  facts : StringMap := ∅
deriving DecidableEq

namespace HealthReport

/-- The report on an artifact that is of no use. -/
def unhealthy (message : String) : HealthReport := { healthy := false, message }

end HealthReport

namespace Provisioning

/-- Sends a request whose failure is told together with what was tried. -/
def send (context : String) (r : Request) : Provisioning r.Answer :=
  ExceptT.mk do
    match ← Program.send r with
    | .ok a => pure (.ok a)
    | .error cause => pure (.error (.cluster context cause))

/-- The namespace of a grant, which a grant that can be served has. -/
def namespaceOf (grant : Grant) : Provisioning String :=
  match grant.metadata.ns with
  | some ns => pure ns
  | none => throw (.internal s!"grant {grant.name} has no namespace")

end Provisioning

/-- The labels of the artifact of a grant. -/
def Grant.artifactLabels (grant : Grant) (provider : Provider) : StringMap :=
  CredentialOperator.artifactLabels provider.name grant.name provider.spec.auth.type.text

/-- The owners of the artifact of a grant. -/
def Grant.artifactOwners? (grant : Grant) : Option (List OwnerReference) :=
  (OwnerReference.controllerOf? grantKind grant.metadata).map ([·])

/-- The metadata of the artifact of a grant. -/
def Grant.artifactMetadata (grant : Grant) (provider : Provider) (ns : String) : Metadata where
  name := some grant.spec.secretName
  ns := some ns
  labels := some (grant.artifactLabels provider)
  ownerReferences := grant.artifactOwners?

/-- Where the artifact of a grant stands. -/
def Grant.artifactKey (grant : Grant) (ns : String) : ObjectKey := ⟨ns, grant.spec.secretName⟩

/-- The facts that every strategy tells. -/
def Provider.facts (provider : Provider) : StringMap :=
  (((∅ : StringMap).insert "provider" provider.name).insert "providerType"
    provider.spec.provider.text).insert "authType" provider.spec.auth.type.text

end CredentialOperator
