import CredentialOperator.Grant.Codec
import CredentialOperator.Provider.Codec
import CredentialOperator.Resource.Dynamic
import CredentialOperator.Resource.Kind
import CredentialOperator.Resource.Secret

/-! # Requests to the cluster

Everything that the operator reads from the cluster or writes to it is one of the requests
below.  Each has an answer of its own type, or fails.
-/

namespace CredentialOperator

/-- The sorts of requests. -/
inductive RequestKind where
  /-- Reading a provider. -/
  | getProvider
  /-- Reading the labels of a namespace. -/
  | getNamespaceLabels
  /-- Reading a Secret for the check of a provider. -/
  | checkSecret
  /-- Listing the grants that refer to a provider. -/
  | listGrantsOf
  /-- Listing the grants of a namespace. -/
  | listGrants
  /-- Writing the status of a grant. -/
  | patchGrantStatus
  /-- Writing the status of a provider. -/
  | patchProviderStatus
  /-- Adding a finalizer to a grant. -/
  | addFinalizer
  /-- Removing a finalizer from a grant. -/
  | removeFinalizer
  /-- Reading a Secret for an artifact. -/
  | getSecret
  /-- Writing an artifact. -/
  | applySecret
  /-- Removing an artifact. -/
  | deleteSecret
  /-- Reading an object of any kind. -/
  | getDynamic
  /-- Writing an object of any kind. -/
  | applyDynamic
  /-- Removing an object of any kind. -/
  | deleteDynamic
deriving DecidableEq, Repr

/-- A request to the cluster. -/
inductive Request where
  /-- Reads a provider. -/
  | getProvider (name : String)
  /-- Reads the labels of a namespace. -/
  | getNamespaceLabels (name : String)
  /-- Reads a Secret for the check of a provider. -/
  | checkSecret (key : ObjectKey)
  /-- Lists the grants, of any namespace, that refer to a provider. -/
  | listGrantsOf (provider : String)
  /-- Lists the grants of a namespace. -/
  | listGrants (ns : String)
  /-- Writes the status of a grant. -/
  | patchGrantStatus (key : ObjectKey) (status : GrantStatus)
  /-- Writes the status of a provider. -/
  | patchProviderStatus (name : String) (status : ProviderStatus)
  /-- Adds a finalizer to a grant unless it is there. -/
  | addFinalizer (key : ObjectKey) (finalizer : String)
  /-- Removes a finalizer from a grant if it is there. -/
  | removeFinalizer (key : ObjectKey) (finalizer : String)
  /-- Reads a Secret for an artifact. -/
  | getSecret (key : ObjectKey)
  /-- Writes a Secret, whoever owned its fields before. -/
  | applySecret (key : ObjectKey) (secret : Secret)
  /-- Removes a Secret; the answer tells whether it was there. -/
  | deleteSecret (key : ObjectKey)
  /-- Reads an object. -/
  | getDynamic (kind : ResourceKind) (key : ObjectKey)
  /-- Writes an object, whoever owned its fields before; the answer is the stored object. -/
  | applyDynamic (kind : ResourceKind) (key : ObjectKey) (object : DynamicObject)
  /-- Removes an object; the answer tells whether it was there. -/
  | deleteDynamic (kind : ResourceKind) (key : ObjectKey)
deriving DecidableEq

namespace Request

/-- The type of a request's answer. -/
abbrev Answer : Request → Type
  | .getProvider _ => Option Provider
  | .getNamespaceLabels _ => Option StringMap
  | .checkSecret _ => Option Secret
  | .listGrantsOf _ => List Grant
  | .listGrants _ => List Grant
  | .patchGrantStatus _ _ => Unit
  | .patchProviderStatus _ _ => Unit
  | .addFinalizer _ _ => Unit
  | .removeFinalizer _ _ => Unit
  | .getSecret _ => Option Secret
  | .applySecret _ _ => Unit
  | .deleteSecret _ => Bool
  | .getDynamic _ _ => Option DynamicObject
  | .applyDynamic _ _ _ => DynamicObject
  | .deleteDynamic _ _ => Bool

/-- The outcome of a request: its answer, or why it failed. -/
abbrev Outcome (r : Request) : Type := Except ApiFailure r.Answer

/-- The sort of a request. -/
def kind : Request → RequestKind
  | .getProvider _ => .getProvider
  | .getNamespaceLabels _ => .getNamespaceLabels
  | .checkSecret _ => .checkSecret
  | .listGrantsOf _ => .listGrantsOf
  | .listGrants _ => .listGrants
  | .patchGrantStatus _ _ => .patchGrantStatus
  | .patchProviderStatus _ _ => .patchProviderStatus
  | .addFinalizer _ _ => .addFinalizer
  | .removeFinalizer _ _ => .removeFinalizer
  | .getSecret _ => .getSecret
  | .applySecret _ _ => .applySecret
  | .deleteSecret _ => .deleteSecret
  | .getDynamic _ _ => .getDynamic
  | .applyDynamic _ _ _ => .applyDynamic
  | .deleteDynamic _ _ => .deleteDynamic

/-- The text of what a request is about: a name, or a namespace and a name. -/
def target : Request → String
  | .getProvider name | .getNamespaceLabels name | .listGrantsOf name | .listGrants name
  | .patchProviderStatus name _ => name
  | .checkSecret key | .patchGrantStatus key _ | .addFinalizer key _ | .removeFinalizer key _
  | .getSecret key | .applySecret key _ | .deleteSecret key | .getDynamic _ key
  | .applyDynamic _ key _ | .deleteDynamic _ key => key.text

/-- What a request carries besides its target. -/
def body? : Request → Option Json
  | .patchGrantStatus _ status => some status.toJson
  | .patchProviderStatus _ status => some status.toJson
  | .addFinalizer _ finalizer | .removeFinalizer _ finalizer => some (.string finalizer)
  | .applySecret _ secret => some secret.toJson
  | .getDynamic kind _ | .deleteDynamic kind _ => some (.string kind.plural)
  | .applyDynamic kind _ object =>
    some (.object [("plural", .string kind.plural), ("object", object.toJson)])
  | _ => none

/-- The artifact that a request writes or removes. -/
def artifact? : Request → Option ObjectKey
  | .applySecret key _ | .deleteSecret key | .applyDynamic _ key _ | .deleteDynamic _ key =>
    some key
  | _ => none

end Request

end CredentialOperator
