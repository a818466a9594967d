import CredentialOperator.Json.Writer
import CredentialOperator.Names

/-! # Measurements

What the operator counts and gauges.  Counters add up, gauges show the last value, and the
durations of passes are counted by their number.  `Measurement.summarize` is what an observer
sees of a list of measurements: one reading for each instrument and set of labels.
-/

namespace CredentialOperator

/-- The two controllers, by the label that they bear. -/
inductive Controller where
  /-- The controller of grants. -/
  | grants
  /-- The controller of providers. -/
  | providers
deriving DecidableEq, Repr

/-- The label of a controller. -/
def Controller.text : Controller → String
  | .grants => "credential_grant"
  | .providers => "credential_provider"

/-- One measurement. -/
inductive Measurement where
  /-- Whether a grant was ready at the end of a pass. -/
  | grantReadiness (provider ns : String) (ready : Bool)
  /-- An attempt to make an artifact. -/
  | provisioning (provider ns : String) (success : Bool)
  /-- A rotation. -/
  | rotation (provider ns : String)
  /-- A failed attempt, and whether trying again can help. -/
  | rotationError (provider ns : String) (retryable : Bool)
  /-- The age of a credential in milliseconds. -/
  | credentialAge (provider ns grant : String) (millis : Int)
  /-- The time left until the next rotation in milliseconds. -/
  | nextRotation (provider ns grant : String) (millis : Int)
  /-- Whether a provider can serve. -/
  | providerHealth (provider type : String) (healthy : Bool)
  /-- A pod that was given the credential of a grant. -/
  | injection (ns provider : String)
  /-- The end of a pass. -/
  | pass (controller : Controller) (success : Bool)
  /-- A pass that failed. -/
  | passError (controller : Controller) (kind : String)
deriving DecidableEq, Repr

/-- What a measurement does to the reading of its instrument. -/
inductive Effect where
  /-- It is added. -/
  | add (n : Int)
  /-- It takes the place of the old value. -/
  | show (n : Int)
deriving DecidableEq, Repr

namespace Measurement

/-- The instrument of a measurement. -/
def instrument : Measurement → String
  | .grantReadiness .. => "keygate_grants_total"
  | .provisioning .. => "keygate_secret_provisioning_total"
  | .rotation .. => "keygate_credential_rotations_total"
  | .rotationError .. => "keygate_credential_rotation_errors_total"
  | .credentialAge .. => "keygate_credential_age_seconds"
  | .nextRotation .. => "keygate_credential_next_rotation_seconds"
  | .providerHealth .. => "keygate_provider_health"
  | .injection .. => "keygate_webhook_injections_total"
  | .pass .. => "keygate_reconcile_duration_seconds"
  | .passError .. => "keygate_reconcile_errors_total"

/-- The labels of a measurement, in ascending order. -/
def labels : Measurement → List (String × String)
  | .grantReadiness provider ns ready =>
    [("namespace", ns), ("provider", provider),
      ("status", if ready then "ready" else "not_ready")]
  | .provisioning provider ns success =>
    [("namespace", ns), ("provider", provider),
      ("result", if success then "success" else "failure")]
  | .rotation provider ns => [("namespace", ns), ("provider", provider)]
  | .rotationError provider ns retryable =>
    [("error_type", if retryable then "transient" else "permanent"), ("namespace", ns),
      ("provider", provider)]
  | .credentialAge provider ns grant _ | .nextRotation provider ns grant _ =>
    [("grant", grant), ("namespace", ns), ("provider", provider)]
  | .providerHealth provider type _ => [("provider", provider), ("provider_type", type)]
  | .injection ns provider => [("namespace", ns), ("provider", provider)]
  | .pass controller success =>
    [("controller", controller.text), ("result", if success then "success" else "error")]
  | .passError controller kind => [("controller", controller.text), ("error_type", kind)]

/-- What a measurement does to the reading of its instrument. -/
def effect : Measurement → Effect
  | .grantReadiness .. => .show 1
  | .credentialAge _ _ _ millis | .nextRotation _ _ _ millis => .show millis
  | .providerHealth _ _ healthy => .show (if healthy then 1 else 0)
  | _ => .add 1

end Measurement

/-- The value of an instrument for a set of labels. -/
structure Reading where
  /-- The instrument. -/
  instrument : String
  /-- The labels, in ascending order. -/
  labels : List (String × String)
  /-- The value. -/
  value : Int
deriving DecidableEq, Repr

namespace Reading

/-- A reading as a value. -/
def toJson (r : Reading) : Json :=
  .object [
    ("labels", .object (r.labels.map fun l => (l.1, .string l.2))),
    ("name", .string r.instrument),
    ("value", Json.ofInt r.value)]

/-- Enters a measurement into a list of readings. -/
def enter (readings : List Reading) (m : Measurement) : List Reading :=
  match readings with
  | [] =>
    let value := match m.effect with
      | .add n | .show n => n
    [⟨m.instrument, m.labels, value⟩]
  | r :: rest =>
    if r.instrument = m.instrument ∧ r.labels = m.labels then
      let value := match m.effect with
        | .add n => r.value + n
        | .show n => n
      { r with value } :: rest
    else r :: enter rest m

end Reading

/-- The readings after some measurements, in the order of their texts. -/
def Measurement.summarize (ms : List Measurement) : List Reading :=
  (ms.foldl Reading.enter []).mergeSort fun a b => !(b.toJson.render < a.toJson.render)

end CredentialOperator
