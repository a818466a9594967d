import CredentialOperator.Json.Record
import CredentialOperator.Time.Rfc3339

/-! # Conditions

A condition says how one aspect of an object stands, why, and since when.  A list of
conditions holds at most one entry of each type when it is only changed by `Condition.set`;
entering a condition whose status is the old one keeps the time of the last transition.
-/

namespace CredentialOperator

/-- The status of a condition. -/
inductive ConditionStatus where
  /-- The condition holds. -/
  | true
  /-- The condition does not hold. -/
  | false
  /-- It is not known. -/
  | unknown
deriving DecidableEq, Repr

namespace ConditionStatus

/-- The status of a condition of which nothing was said. -/
def default : ConditionStatus := .unknown

/-- The status of a condition that is known to hold or not. -/
def ofBool (b : Bool) : ConditionStatus := if b then .true else .false

/-- The text of a status. -/
def text : ConditionStatus → String
  | .true => "True"
  | .false => "False"
  | .unknown => "Unknown"

/-- Reads a status. -/
def ofText? (s : String) : Option ConditionStatus :=
  if s = "True" then some .true
  else if s = "False" then some .false
  else if s = "Unknown" then some .unknown
  else none

@[simp] theorem ofText?_text (s : ConditionStatus) : ofText? s.text = some s := by
  cases s <;> rfl

end ConditionStatus

/-- A condition. -/
structure Condition where
  /-- The aspect it is about. -/
  type : String
  /-- How the aspect stands. -/
  status : ConditionStatus
  /-- Why, for programs. -/
  reason : String
  /-- Why, for people. -/
  message : String
  /-- When the status changed last. -/
  lastTransitionTime : Timestamp
  /-- The generation of the object it was derived from. -/
  observedGeneration : Option Int := none
deriving DecidableEq

namespace Condition

/-- Whether two conditions agree in all but the time of their last transition. -/
def sameState (a b : Condition) : Bool :=
  a.type == b.type && a.status == b.status && a.reason == b.reason && a.message == b.message &&
    a.observedGeneration == b.observedGeneration

/-- The condition `new` in the place of `old`: since when it stands is taken over unless the
status differs. -/
def supersede (old new : Condition) : Condition :=
  if old.status = new.status then { new with lastTransitionTime := old.lastTransitionTime }
  else new

/-- Enters a condition: in the place of the first one of its type, else at the end. -/
def set (conditions : List Condition) (new : Condition) : List Condition :=
  match conditions with
  | [] => [new]
  | old :: rest =>
    if old.type = new.type then supersede old new :: rest else old :: set rest new

/-- The first condition of a type. -/
def find? (conditions : List Condition) (type : String) : Option Condition :=
  conditions.find? (·.type = type)

/-- Whether two lists of conditions agree, one by one, in all but the times. -/
def equivalent (as bs : List Condition) : Bool :=
  as.length == bs.length && (as.zip bs).all fun p => sameState p.1 p.2

/-- An instant as a value. -/
def timestampJson (t : Timestamp) : Json := .string t.render

/-- A condition as a value. -/
def toJson (c : Condition) : Json :=
  .object <|
    Json.entry "type" (.string c.type) ++
    Json.entry "status" (.string c.status.text) ++
    Json.entry "reason" (.string c.reason) ++
    Json.entry "message" (.string c.message) ++
    Json.entry "lastTransitionTime" (timestampJson c.lastTransitionTime) ++
    Json.optionalEntry "observedGeneration" Json.ofInt c.observedGeneration

/-- Reads an instant. -/
def timestamp? : Json → Option Timestamp := Json.named? Timestamp.parse?

/-- Reads a condition. -/
def ofJson? (j : Json) : Option Condition := do
  let fields ← j.asObject?
  some {
    type := ← Json.required fields "type" Json.string?
    status := ← Json.required fields "status" (Json.named? ConditionStatus.ofText?)
    reason := ← Json.required fields "reason" Json.string?
    message := ← Json.required fields "message" Json.string?
    lastTransitionTime := ← Json.required fields "lastTransitionTime" timestamp?
    observedGeneration := ← Json.optional fields "observedGeneration" Json.int64? }

/-! ## Entering and finding -/

theorem supersede_type {old new : Condition} : (supersede old new).type = new.type := by
  unfold supersede
  split <;> rfl

theorem sameState_supersede {old new : Condition} : sameState new (supersede old new) = true := by
  unfold supersede
  split <;> simp [sameState]

theorem find?_set_of_ne {conditions : List Condition} {new : Condition} {type : String}
    (h : new.type ≠ type) : find? (set conditions new) type = find? conditions type := by
  induction conditions with
  | nil => simp [set, find?, h]
  | cons old rest ih =>
    unfold find? at ih ⊢
    by_cases ho : old.type = new.type
    · simp [set, ho, supersede_type, h]
    · by_cases ht : old.type = type
      · subst ht
        simp [set, ho]
      · simp [set, ho, ht, ih]

theorem find?_set_self {conditions : List Condition} {new : Condition} :
    find? (set conditions new) new.type =
      some (match find? conditions new.type with
        | some old => supersede old new
        | none => new) := by
  induction conditions with
  | nil => simp [set, find?]
  | cons old rest ih =>
    unfold find? at ih ⊢
    by_cases ho : old.type = new.type
    · simp [set, ho, supersede_type]
    · simp [set, ho, ih]

end Condition

end CredentialOperator
