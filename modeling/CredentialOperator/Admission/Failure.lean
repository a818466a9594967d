import CredentialOperator.Failure.Api

/-! # Failures of the admission server

A request that carries no review is refused; everything else that can go wrong is the
server's own fault.
-/

namespace CredentialOperator

/-- A failure of the admission server. -/
inductive AdmissionFailure where
  /-- The body of a request is no review with a request. -/
  | invalidReview (text : String)
  /-- The certificate or key cannot be used. -/
  | tls (text : String)
  /-- The server failed. -/
  | server (text : String)
deriving DecidableEq, Repr

namespace AdmissionFailure

/-- The failure of a body that is no review. -/
def malformed : AdmissionFailure :=
  .invalidReview ("malformed AdmissionReview: " ++ unspecifiedWording)

/-- The failure of a review without a request. -/
def noRequest : AdmissionFailure :=
  .invalidReview "failed to convert AdmissionReview into AdmissionRequest"

/-- The wording of a failure. -/
def message : AdmissionFailure → String
  | .invalidReview text => "invalid admission review: " ++ text
  | .tls text => "TLS config error: " ++ text
  | .server text => "server error: " ++ text

/-- The status code of the answer. -/
def status : AdmissionFailure → Nat
  | .invalidReview _ => 400
  | .tls _ | .server _ => 500

/-- The body of the answer. -/
def toJson (f : AdmissionFailure) : Json := .object [("error", .string f.message)]

end AdmissionFailure

end CredentialOperator
