import CredentialOperator.Provision.DelegatedSync
import CredentialOperator.Provision.DirectCopy

/-! # Strategies

The type of a provider's authentication decides how the artifacts of its grants are made;
for identities of workloads there is no way.  When the provider is gone, what is left of a
grant is cleaned up as if its key had been copied.
-/

namespace CredentialOperator

/-- A way to make artifacts. -/
inductive Strategy where
  /-- The master key is copied. -/
  | directCopy
  /-- The copy is left to the External Secrets Operator. -/
  | delegatedSync
deriving DecidableEq, Repr

namespace Strategy

/-- The strategy for a type of authentication. -/
def ofAuthType? : AuthType → Option Strategy
  | .apiKey => some .directCopy
  | .externalSecret => some .delegatedSync
  | .workloadIdentity => none

/-- The type of authentication that a strategy serves. -/
def authType : Strategy → AuthType
  | .directCopy => .apiKey
  | .delegatedSync => .externalSecret

/-- The strategy for the grants of a provider. -/
def ofProvider? (provider : Provider) : Option Strategy :=
  ofAuthType? provider.spec.auth.type

/-- The strategy for cleaning up when the provider is gone. -/
def fallback : Strategy := .directCopy

/-- Makes the artifact of a grant, or puts it back into form. -/
def provision (s : Strategy) (now : Timestamp) (provider : Provider) (grant : Grant) :
    Provisioning ProvisionResult :=
  match s with
  | .directCopy => DirectCopy.provision now provider grant
  | .delegatedSync => DelegatedSync.provision now provider grant

/-- Removes the artifact of a grant. -/
def cleanup (s : Strategy) (grant : Grant) : Provisioning Unit :=
  match s with
  | .directCopy => DirectCopy.cleanup grant
  | .delegatedSync => DelegatedSync.cleanup grant

/-- Looks at the artifact of a grant without changing it. -/
def healthCheck (s : Strategy) (now : Timestamp) (provider : Provider) (grant : Grant) :
    Provisioning HealthReport :=
  match s with
  | .directCopy => DirectCopy.healthCheck now provider grant
  | .delegatedSync => DelegatedSync.healthCheck grant

end Strategy

end CredentialOperator
