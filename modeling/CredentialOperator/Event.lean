import CredentialOperator.Resource.Metadata

/-! # Events

An event tells people what became of an object.  The reasons and actions that the operator
uses are listed here.
-/

namespace CredentialOperator

/-- Whether an event is a warning. -/
inductive EventType where
  /-- Something went as it should. -/
  | normal
  /-- Something did not. -/
  | warning
deriving DecidableEq, Repr

/-- The text of an event's type. -/
def EventType.text : EventType → String
  | .normal => "Normal"
  | .warning => "Warning"

/-- An event. -/
structure Event where
  /-- Whether it is a warning. -/
  type : EventType
  /-- Why it was published. -/
  reason : String
  /-- What was being done. -/
  action : String
  /-- The text for people. -/
  note : Option String
  /-- The object that it is about. -/
  regarding : ObjectReference
deriving DecidableEq

namespace Event

/-- The reason of the event for an artifact that was removed. -/
def cleanupComplete : String := "CleanupComplete"

/-- The reason of the event for an artifact that could not be removed. -/
def cleanupFailed : String := "CleanupFailed"

/-- The reason of the event for a provider that cannot serve. -/
def providerUnhealthy : String := "ProviderUnhealthy"

/-- The reason of the event for a provider that can serve again. -/
def providerHealthy : String := "ProviderHealthy"

/-- The action of an ordinary pass. -/
def reconcile : String := "Reconcile"

/-- The action of making an artifact. -/
def provision : String := "Provision"

/-- The action of removing an artifact. -/
def cleanup : String := "Cleanup"

/-- The action of comparing a request with what is allowed. -/
def validate : String := "Validate"

end Event

end CredentialOperator
