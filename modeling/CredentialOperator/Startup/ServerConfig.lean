import CredentialOperator.Admission.Failure
import CredentialOperator.Startup.Files
import CredentialOperator.Startup.SocketAddress

/-! # What the admission server is started with

The certificate and the key are read from files before the server is started, the certificate
first; whether they can be used turns out when the server is started.
-/

namespace CredentialOperator

/-- What the admission server is started with. -/
structure ServerConfig where
  /-- The address to listen at. -/
  address : SocketAddress
  /-- The text of the certificate. -/
  certificate : String
  /-- The text of the key. -/
  key : String
deriving DecidableEq, Repr

/-- A file that cannot be read. -/
structure UnreadableFile where
  /-- Its path. -/
  path : String
  /-- Why it cannot be read. -/
  cause : FileFailure
deriving DecidableEq, Repr

/-- The wording of a failure. -/
def UnreadableFile.message (f : UnreadableFile) : String :=
  "failed to read " ++ f.path ++ ": " ++ f.cause.message

/-- Loads what the admission server is started with. -/
def ServerConfig.load (read : String → Except FileFailure String) (address : SocketAddress)
    (certificatePath keyPath : String) : Except UnreadableFile ServerConfig := do
  let readAt (path : String) := (read path).mapError fun cause => UnreadableFile.mk path cause
  let certificate ← readAt certificatePath
  let key ← readAt keyPath
  pure { address, certificate, key }

/-- Checks what the admission server is started with, given which certificates and keys can
be used. -/
def ServerConfig.check (usable : String → String → Bool) (c : ServerConfig) :
    Except AdmissionFailure Unit :=
  if usable c.certificate c.key then .ok () else .error (.tls unspecifiedWording)

end CredentialOperator
