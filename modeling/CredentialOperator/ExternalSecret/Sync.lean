import CredentialOperator.ExternalSecret.Basic
import CredentialOperator.Resource.Dynamic

/-! # Syncing from an external store

A sync request says, without regard to the form of ExternalSecrets, which values are to be
copied where.  It is turned into an ExternalSecret, and how far the copying has come is read
off the object that the cluster holds.
-/

namespace CredentialOperator

/-- Who owns the Secret that is written. -/
inductive CreationPolicy where
  /-- The ExternalSecret, with which it goes away. -/
  | owner
  /-- Nobody; it stays behind. -/
  | orphan
  /-- Somebody else; the values are merged into it. -/
  | merge
  /-- No Secret is made. -/
  | none
deriving DecidableEq, Repr

namespace CreationPolicy

/-- The policy of a request that names none. -/
def default : CreationPolicy := .owner

/-- The text of a policy. -/
def text : CreationPolicy → String
  | .owner => "Owner"
  | .orphan => "Orphan"
  | .merge => "Merge"
  | .none => "None"

/-- Reads a policy. -/
def ofText? (s : String) : Option CreationPolicy :=
  [.owner, .orphan, .merge, .none].find? (·.text = s)

@[simp] theorem ofText?_text (p : CreationPolicy) : ofText? p.text = some p := by
  cases p <;> rfl

end CreationPolicy

/-- A value that is to be copied. -/
structure SyncData where
  /-- The key in the Secret. -/
  secretKey : String
  /-- The key or path in the store. -/
  remoteKey : String
  /-- A property of the object stored there. -/
  property : Option String := none
  /-- A version of it. -/
  version : Option String := none
deriving DecidableEq, Repr

/-- A request to copy values. -/
structure SyncRequest where
  /-- How often they are copied. -/
  refreshInterval : String
  /-- The store. -/
  store : StoreReference
  /-- The name of the Secret. -/
  target : String
  /-- Who owns the Secret. -/
  creationPolicy : CreationPolicy
  /-- The values. -/
  data : List SyncData
deriving DecidableEq, Repr

/-- How far the copying has come. -/
structure SyncStatus where
  /-- Whether the values were copied. -/
  ready : Bool
  /-- An explanation, never empty. -/
  message : String
deriving DecidableEq, Repr

namespace SyncRequest

/-- A value to be copied in the form of an ExternalSecret, where a property or version that is
empty is left out. -/
def entry (d : SyncData) : ExternalSecretData where
  secretKey := d.secretKey
  remoteRef := {
    key := d.remoteKey
    property := d.property.filter (!·.isEmpty)
    version := d.version.filter (!·.isEmpty) }

/-- The ExternalSecret that makes a request. -/
def toExternalSecret (r : SyncRequest) (ns name : String) (labels : StringMap) :
    ExternalSecret where
  metadata := { name, ns, labels }
  spec := {
    refreshInterval := some r.refreshInterval
    secretStoreRef := { name := r.store.name, kind := r.store.kind.text }
    target := { name := r.target, creationPolicy := some r.creationPolicy.text }
    data := r.data.map entry }

/-- The object to be stored for a request. -/
def build (r : SyncRequest) (ns name : String) (labels : StringMap) :
    Except ProvisionFailure DynamicObject :=
  match DynamicObject.ofJson? (r.toExternalSecret ns name labels).toJson with
  | some o => .ok o
  | none => .error (.serialization s!"ExternalSecret {ns}/{name}: {unspecifiedWording}")

end SyncRequest

namespace SyncStatus

/-- A status that is not ready yet. -/
def pending (message : String) : SyncStatus := ⟨false, message⟩

/-- The explanation for an object without conditions. -/
def noConditions : String := "no status conditions yet; ESO may still be syncing"

/-- The explanation for an object whose conditions do not tell whether it is ready. -/
def noReadyCondition : String := "Ready condition not found in ExternalSecret status"

/-- The text under a name, if there is one that is not empty. -/
def text? (j : Json) (name : String) : Option String :=
  ((j.get? name).bind Json.asString?).filter (!·.isEmpty)

/-- How far the copying for an object has come: its first condition of type `Ready` tells. -/
def ofObject (o : DynamicObject) : SyncStatus :=
  match ((o.get? "status").bind (·.get? "conditions")).bind Json.asArray? with
  | some (c :: cs) =>
    match (c :: cs).find? fun c => c.get? "type" = some (.string "Ready") with
    | some c => {
        ready := c.get? "status" = some (.string "True")
        message := (text? c "message").getD ((text? c "reason").getD "no message") }
    | none => pending noReadyCondition
  | _ => pending noConditions

end SyncStatus

end CredentialOperator
