import CredentialOperator.Startup.SocketAddress
import CredentialOperator.Startup.Telemetry

/-! # Settings

What the operator can be told at its start: by options of the command line, by variables of
the environment, or not at all, when a default holds.
-/

namespace CredentialOperator

/-- An option with a value. -/
inductive ValueOption where
  /-- Where the admission server listens. -/
  | webhookAddress
  /-- The certificate of the admission server. -/
  | tlsCertificate
  /-- The key of the admission server. -/
  | tlsKey
  /-- The name under which the operator reports. -/
  | serviceName
deriving DecidableEq, Repr

namespace ValueOption

/-- Every option, in the order in which their variables are read. -/
def all : List ValueOption := [.webhookAddress, .tlsCertificate, .tlsKey, .serviceName]

/-- The name of an option. -/
def name : ValueOption → String
  | .webhookAddress => "webhook-addr"
  | .tlsCertificate => "tls-cert"
  | .tlsKey => "tls-key"
  | .serviceName => "service-name"

/-- What stands for the value in messages. -/
def placeholder : ValueOption → String
  | .webhookAddress => "WEBHOOK_ADDR"
  | .tlsCertificate => "TLS_CERT"
  | .tlsKey => "TLS_KEY"
  | .serviceName => "SERVICE_NAME"

/-- The variable that gives the value where the command line does not. -/
def variableName : ValueOption → String
  | .webhookAddress => "KEYGATE_WEBHOOK_ADDR"
  | .tlsCertificate => "KEYGATE_TLS_CERT"
  | .tlsKey => "KEYGATE_TLS_KEY"
  | .serviceName => "OTEL_SERVICE_NAME"

/-- The value where nothing gives one. -/
def default : ValueOption → String
  | .webhookAddress => "0.0.0.0:9443"
  | .tlsCertificate => "/tmp/k8s-webhook-server/serving-certs/tls.crt"
  | .tlsKey => "/tmp/k8s-webhook-server/serving-certs/tls.key"
  | .serviceName => defaultServiceName

/-- What an option is for. -/
def summary : ValueOption → String
  | .webhookAddress => "Address the admission webhook server binds"
  | .tlsCertificate => "Webhook serving certificate (PEM)"
  | .tlsKey => "Webhook serving key (PEM)"
  | .serviceName => "Service name reported in traces and metrics"

/-- An option as messages show it. -/
def shown (o : ValueOption) : String := "--" ++ o.name ++ " <" ++ o.placeholder ++ ">"

end ValueOption

/-- An option without a value. -/
inductive Switch where
  /-- Print the definitions of kinds. -/
  | definitions
  /-- Start no admission server. -/
  | noWebhook
  /-- Install no definitions. -/
  | noInstall
deriving DecidableEq, Repr

namespace Switch

/-- Every switch. -/
def all : List Switch := [.definitions, .noWebhook, .noInstall]

/-- The name of a switch. -/
def name : Switch → String
  | .definitions => "crd"
  | .noWebhook => "no-webhook"
  | .noInstall => "no-install-crds"

/-- What a switch is for. -/
def summary : Switch → String
  | .definitions => "Print CRD manifests and exit"
  | .noWebhook => "Do not start the admission webhook server"
  | .noInstall => "Skip CRD installation on startup"

/-- A switch as messages show it. -/
def shown (s : Switch) : String := "--" ++ s.name

end Switch

/-- The variables of the environment. -/
abbrev Environment : Type := String → Option String

/-- The settings of a run. -/
structure Settings where
  /-- Where the admission server listens. -/
  webhookAddress : SocketAddress
  /-- The path of its certificate. -/
  tlsCertificate : String
  /-- The path of its key. -/
  tlsKey : String
  /-- Whether there is an admission server. -/
  webhook : Bool
  /-- Whether the definitions of kinds are installed. -/
  install : Bool
  /-- The name under which the operator reports. -/
  serviceName : String
deriving DecidableEq, Repr

end CredentialOperator
