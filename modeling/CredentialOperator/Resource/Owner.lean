import CredentialOperator.Names
import CredentialOperator.Resource.Metadata

/-! # Owners

An object that the operator makes for another is owned by it: it goes away with its owner,
and the owner is told apart by its unique identifier.
-/

namespace CredentialOperator

/-- The reference to the owner of a managed object; there is none before the owner was
stored. -/
def OwnerReference.controllerOf? (kind : String) (m : Metadata) : Option OwnerReference :=
  m.uid.map fun uid => {
    apiVersion := operatorApiVersion
    kind
    name := m.displayName
    uid
    controller := some true
    blockOwnerDeletion := some true }

end CredentialOperator
