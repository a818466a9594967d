import CredentialOperator.Failure.Api

/-! # Failures of the operator

A failure carries what it concerns, so that its wording can be shown on its own in a log, an
event or a condition.  Whether trying again can help is decided by the cause alone.
-/

namespace CredentialOperator

/-- What stands for the resource or context of a failure that has none. -/
def unknownContext : String := "unknown"

/-- A failure. -/
inductive Failure where
  /-- A request to the cluster failed. -/
  | cluster (cause : ApiFailure)
  /-- What a resource asks for is not valid. -/
  | validation (resource message : String) (field : Option String)
  /-- The credential of a grant could not be provided. -/
  | provisioning (grant message : String) (retryable : Bool)
  /-- A value could not be read or written. -/
  | serialization (message : String) (kind : Option String)
  /-- Anything else. -/
  | internal (message context : String)
deriving DecidableEq, Repr

namespace Failure

/-- A validation failure without a resource. -/
def invalid (message : String) : Failure := .validation unknownContext message none

/-- An internal failure without a context. -/
def unexpected (message : String) : Failure := .internal message unknownContext

/-- The wording of a failure. -/
def message : Failure → String
  | .cluster cause => "kubernetes error: " ++ cause.message
  | .validation resource message _ => s!"validation error for {resource}: {message}"
  | .provisioning grant message _ => s!"provisioning error for {grant}: {message}"
  | .serialization message _ => s!"serialization error: {message}"
  | .internal message context => s!"internal error [{context}]: {message}"

/-- Whether trying again can help although nothing is edited. -/
def isRetryable : Failure → Bool
  | .cluster cause => !cause.blamesRequest
  | .validation .. => false
  | .provisioning _ _ retryable => retryable
  | .serialization .. => false
  | .internal .. => true

/-- The resource concerned. -/
def resource? : Failure → Option String
  | .validation resource _ _ => some resource
  | .provisioning grant _ _ => some grant
  | _ => none

/-- The field concerned. -/
def field? : Failure → Option String
  | .validation _ _ field => field
  | _ => none

/-- The kind of value concerned. -/
def kind? : Failure → Option String
  | .serialization _ kind => kind
  | _ => none

/-- The context of an internal failure. -/
def context? : Failure → Option String
  | .internal _ context => some context
  | _ => none

end Failure

/-- The failure of a reconcile pass, reduced to a class and a text. -/
inductive ReconcileFailure where
  /-- A request to the cluster failed. -/
  | cluster (text : String)
  /-- What a resource asks for is not valid. -/
  | validation (text : String)
  /-- Anything else. -/
  | internal (text : String)
deriving DecidableEq, Repr

namespace ReconcileFailure

/-- The wording of a failure. -/
def message : ReconcileFailure → String
  | .cluster text => "kube error: " ++ text
  | .validation text => "validation error: " ++ text
  | .internal text => "internal error: " ++ text

/-- The class of a failure, as measurements name it. -/
def kind : ReconcileFailure → String
  | .cluster _ => "kube"
  | .validation _ => "validation"
  | .internal _ => "internal"

/-- The failure of a request, on its own. -/
def ofApi (cause : ApiFailure) : ReconcileFailure := .cluster cause.message

/-- The failure of a request with a short description of what was tried. -/
def ofApiWith (context : String) (cause : ApiFailure) : ReconcileFailure :=
  .cluster (context ++ ": " ++ cause.message)

/-- A failure as that of a pass. -/
def ofFailure : Failure → ReconcileFailure
  | .cluster cause => .cluster cause.message
  | .validation resource message field =>
    .validation (Failure.validation resource message field).message
  | f => .internal f.message

end ReconcileFailure

/-- Why the credential of a grant could not be provided. -/
inductive ProvisionFailure where
  /-- The Secret that holds the master key is not there. -/
  | sourceSecretNotFound (ns name : String)
  /-- The Secret is there, but not the key. -/
  | sourceKeyMissing (ns name key : String)
  /-- The provider lacks the block that its kind of authentication needs. -/
  | missingConfig (provider : String)
  /-- A request to the cluster failed. -/
  | cluster (context : String) (cause : ApiFailure)
  /-- An object could not be built. -/
  | serialization (message : String)
  /-- The grant cannot be served as it is. -/
  | internal (message : String)
deriving DecidableEq, Repr

namespace ProvisionFailure

/-- The wording of a failure. -/
def message : ProvisionFailure → String
  | .sourceSecretNotFound ns name => s!"source secret {ns}/{name} not found"
  | .sourceKeyMissing ns name key => s!"key '{key}' not found in source secret {ns}/{name}"
  | .missingConfig provider => s!"provider {provider} is missing its auth configuration"
  | .cluster context cause => context ++ ": " ++ cause.message
  | .serialization message => s!"serialization error: {message}"
  | .internal message => s!"internal error: {message}"

/-- Whether trying again can help although nothing is edited.  Of the refusals that blame the
request, a missing object and a conflict may clear by themselves. -/
def isRetryable : ProvisionFailure → Bool
  | .sourceSecretNotFound .. | .sourceKeyMissing .. => true
  | .missingConfig _ | .serialization _ => false
  | .cluster _ (.refused r) => !(r.blamesRequest && r.code != 404 && r.code != 409)
  | .cluster _ _ => true
  | .internal _ => true

/-- A failure to provide as a failure of the operator. -/
def toFailure (f : ProvisionFailure) : Failure :=
  match f with
  | .cluster _ cause => .cluster cause
  | .missingConfig provider => .validation provider f.message none
  | .serialization message => .serialization message none
  | f => .provisioning "" f.message f.isRetryable

end ProvisionFailure

end CredentialOperator
