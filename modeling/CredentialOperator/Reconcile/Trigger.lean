import CredentialOperator.Grant.Basic

/-! # What sets off a pass

A grant is looked at again when it changes, when its artifact changes, and when the provider
that it refers to changes.
-/

namespace CredentialOperator

/-- The grants to be looked at again when a provider changes, in the order given. -/
def grantsReferringTo (provider : String) (grants : List Grant) : List Grant :=
  grants.filter (·.spec.provider = provider)

end CredentialOperator
