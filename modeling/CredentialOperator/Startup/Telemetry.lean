import CredentialOperator.Failure.Api

/-! # Telemetry

Logs are always written; traces and metrics are exported only if a collector is named.  The
exporter is built before the subscriber of log messages is installed, and a program has one
subscriber at most.
-/

namespace CredentialOperator

/-- The name under which the operator reports. -/
def defaultServiceName : String := "keygate"

/-- Where telemetry goes. -/
structure TelemetryConfig where
  /-- The name of the service. -/
  service : String
  /-- The address of the collector, if there is one. -/
  endpoint : Option String
deriving DecidableEq, Repr

/-- The settings for a service, given the variable that names the collector; an empty one
names none. -/
def TelemetryConfig.ofVariable (service : String) (collector : Option String) :
    TelemetryConfig where
  service
  endpoint := collector.filter (· ≠ "")

/-- A failure to set telemetry up. -/
inductive TelemetryFailure where
  /-- The exporter of traces cannot be built. -/
  | tracer (text : String)
  /-- The exporter of metrics cannot be built. -/
  | metrics (text : String)
  /-- There is a subscriber already. -/
  | subscriber (text : String)
deriving DecidableEq, Repr

/-- The wording of a failure. -/
def TelemetryFailure.message : TelemetryFailure → String
  | .tracer text => "tracer setup failed: " ++ text
  | .metrics text => "metrics exporter setup failed: " ++ text
  | .subscriber text => "tracing subscriber setup failed: " ++ text

/-- What setting telemetry up depends on. -/
structure TelemetryHost where
  /-- Whether an exporter can be built for an address. -/
  canExportTo : String → Bool
  /-- Whether there is a subscriber already. -/
  hasSubscriber : Bool

/-- Sets telemetry up. -/
def TelemetryConfig.setUp (c : TelemetryConfig) (host : TelemetryHost) :
    Except TelemetryFailure Unit :=
  if (c.endpoint.map host.canExportTo).getD true then
    if host.hasSubscriber then
      .error (.subscriber "a global default trace dispatcher has already been set")
    else .ok ()
  else .error (.metrics unspecifiedWording)

end CredentialOperator
