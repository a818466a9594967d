import CredentialOperator.Install.Installation
import CredentialOperator.Startup.Help
import CredentialOperator.Startup.LogFilter
import CredentialOperator.Startup.ServerConfig

/-! # Running the program

A run sets telemetry up, connects to the cluster, installs the definitions of the operator's
kinds, loads what the admission server needs, and only then serves.  Each step can fail, and
the first failure ends the program; what was logged until then has been written.
-/

namespace CredentialOperator

/-- What is known of the cluster at the start. -/
inductive ClusterAccess where
  /-- Nothing says where it is. -/
  | unknown
  /-- It is known where it is, but nobody answers there. -/
  | unreachable
deriving DecidableEq, Repr

/-- What a run depends on. -/
structure Host where
  /-- The variables of the environment. -/
  environment : Environment
  /-- The files of the working directory. -/
  files : Directory := []
  /-- The cluster. -/
  cluster : ClusterAccess := .unknown
  /-- Whether an exporter can be built for the address of a collector. -/
  canExportTo : String → Bool := fun _ => false

/-- A message in the log. -/
structure LogMessage where
  /-- How much it matters. -/
  level : LogLevel
  /-- The part of the program that it comes from. -/
  target : String
  /-- Its text. -/
  message : String
deriving DecidableEq, Repr

/-- A message as a line of the log. -/
def LogMessage.toJson (m : LogMessage) : Json :=
  .object [("level", .string m.level.text),
    ("fields", .object [("message", .string m.message)]), ("target", .string m.target)]

/-- A failure that ends a run. -/
inductive StartupFailure where
  /-- Telemetry cannot be set up. -/
  | telemetry (cause : TelemetryFailure)
  /-- No client can be made. -/
  | client
  /-- The server did not answer when a definition was to be installed. -/
  | connection (definition : String)
  /-- A file cannot be read. -/
  | file (cause : UnreadableFile)
deriving DecidableEq, Repr

/-- The wording of a failure. -/
def StartupFailure.message : StartupFailure → String
  | .telemetry cause => cause.message
  | .client => "failed to create Kubernetes client: " ++ unspecifiedWording
  | .connection definition =>
    "failed to install " ++ definition ++ " CRD: ServiceError: client error (Connect)"
  | .file cause => cause.message

/-- How a start ends: with the state in which the operator serves, if it comes to that. -/
inductive Outcome where
  /-- A text was asked for. -/
  | printed (text : String)
  /-- The command line is wrong. -/
  | misused (error : UsageError)
  /-- The start failed, after some messages. -/
  | failed (log : List LogMessage) (failure : StartupFailure)
  /-- The operator serves, after some messages. -/
  | serving (log : List LogMessage) (server : Option ServerConfig)

namespace Outcome

/-- The exit code. -/
def exitCode : Outcome → Nat
  | .printed _ | .serving .. => 0
  | .misused _ => 2
  | .failed .. => 1

/-- What is written to the stream for errors. -/
def errorText : Outcome → String
  | .printed _ | .serving .. => ""
  | .misused e => "error: " ++ e.message ++ "\n\nFor more information, try '--help'.\n"
  | .failed _ f => "Error: " ++ f.message ++ "\n"

/-- The messages in the log. -/
def log : Outcome → List LogMessage
  | .printed _ | .misused _ => []
  | .failed log _ | .serving log _ => log

/-- What is written to the standard output. -/
def outputText : Outcome → String
  | .printed text => text
  | o => String.join (o.log.map fun m => m.toJson.render ++ "\n")

end Outcome

/-- The variable that names the collector of traces and metrics. -/
def collectorVariable : String := "OTEL_EXPORTER_OTLP_ENDPOINT"

/-- The variable that gives the log filter. -/
def logFilterVariable : String := "RUST_LOG"

/-- The variables that are read. -/
def variableNames : List String :=
  ValueOption.all.map ValueOption.variableName ++ [collectorVariable, logFilterVariable]

/-- A step of the start: it may write messages, and it may fail. -/
abbrev Startup (α : Type) : Type := ExceptT StartupFailure (StateM (List LogMessage)) α

namespace Startup

/-- Writes a message of a part of the program. -/
def infoFrom (target message : String) : Startup Unit :=
  modify (· ++ [{ level := .info, target, message }])

/-- Writes a message of the program itself. -/
def info (message : String) : Startup Unit := infoFrom "keygate" message

/-- Installs the definitions, unless the settings say otherwise. -/
def installation (host : Host) (s : Settings) : Startup Unit :=
  if s.install then
    match host.cluster with
    | .unknown => pure ()
    | .unreachable => do
      infoFrom "keygate::startup::crds" ("Installing " ++ providerDefinition.name ++ " CRD...")
      throw (.connection providerDefinition.name)
  else info "Skipping CRD installation"

/-- Loads what the admission server needs, unless there is to be none. -/
def admissionServer (host : Host) (s : Settings) : Startup (Option ServerConfig) :=
  if s.webhook then
    match ServerConfig.load host.files.read s.webhookAddress s.tlsCertificate s.tlsKey with
    | .ok config => pure (some config)
    | .error cause => throw (.file cause)
  else do
    info "Admission webhook server disabled"
    pure none

/-- The steps after telemetry is set up. -/
def serve (host : Host) (s : Settings) : Startup (Option ServerConfig) := do
  info "keygate operator starting..."
  if host.cluster = .unknown then throw .client
  installation host s
  let server ← admissionServer host s
  info "Starting keygate controllers..."
  pure server

end Startup

/-- Runs the operator. -/
def Settings.run (s : Settings) (host : Host) : Outcome :=
  let telemetry := TelemetryConfig.ofVariable s.serviceName (host.environment collectorVariable)
  match telemetry.setUp { canExportTo := host.canExportTo, hasSubscriber := false } with
  | .error cause => .failed [] (.telemetry cause)
  | .ok () =>
    let filter := LogFilter.ofSetting (host.environment logFilterVariable)
    let (result, messages) := (Startup.serve host s).run.run []
    let log := messages.filter fun m => filter.passes m.target m.level
    match result with
    | .ok server => .serving log server
    | .error failure => .failed log failure

/-- Runs the program with the given arguments. -/
def runProgram (host : Host) (arguments : List String) : Outcome :=
  match CommandLine.read host.environment arguments with
  | .error (.help topic) => .printed (Help.text host.environment topic)
  | .error .version => .printed Help.versionText
  | .error (.error e) => .misused e
  | .ok .definitions => .printed kindManifests
  | .ok (.run s) => s.run host

end CredentialOperator
