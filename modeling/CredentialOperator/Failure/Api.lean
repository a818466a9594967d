import CredentialOperator.Json.Record
import CredentialOperator.Text.Quoted

/-! # Failed requests

A request to the cluster fails when the server refuses it, when its answer cannot be read,
or when the request cannot be made in the first place.
-/

namespace CredentialOperator

/-- What stands in messages for the wording of a reader of texts, which is not fixed. -/
def unspecifiedWording : String := "<decode>"

/-- The answer of a server that refuses a request. -/
structure ErrorResponse where
  /-- The status word. -/
  status : String
  /-- What went wrong, for people. -/
  message : String
  /-- What went wrong, for programs. -/
  reason : String
  /-- The status code. -/
  code : Nat
deriving DecidableEq, Repr

namespace ErrorResponse

/-- The full form of an answer, each text quoted. -/
def detail (r : ErrorResponse) : String :=
  "ErrorResponse \x7b status: " ++ Text.quoted r.status ++ ", message: " ++
    Text.quoted r.message ++ ", reason: " ++ Text.quoted r.reason ++ ", code: " ++
    toString r.code ++ " \x7d"

/-- Reads an answer: the status word and code must be there. -/
def ofJson? (j : Json) : Option ErrorResponse := do
  let fields ← j.asObject?
  some {
    status := ← Json.required fields "status" Json.string?
    message := ← Json.defaulted fields "message" "" Json.string?
    reason := ← Json.defaulted fields "reason" "" Json.string?
    code := ← Json.required fields "code" Json.nat16? }

/-- The form of an answer that only tells how a request went. -/
def plainStatus? (j : Json) : Option Unit := do
  let fields ← j.asObject?
  let _ ← Json.optional fields "status" (Json.named? fun s =>
    if s = "Success" ∨ s = "Failure" then some () else none)
  let _ ← Json.defaulted fields "code" 0 Json.nat16?
  let _ ← Json.defaulted fields "message" "" Json.string?
  let _ ← Json.defaulted fields "reason" "" Json.string?
  let _ ← Json.optional fields "details" Json.object?

/-- Whether the code says that the request is at fault. -/
def blamesRequest (r : ErrorResponse) : Bool := 400 ≤ r.code && r.code < 500

end ErrorResponse

/-- Why a request could not be made. -/
inductive RequestError where
  /-- The name of the object is empty. -/
  | emptyName
  /-- A character of the path may not stand there. -/
  | invalidCharacter
deriving DecidableEq, Repr

/-- Why a request to the cluster failed. -/
inductive ApiFailure where
  /-- The server refused it. -/
  | refused (response : ErrorResponse)
  /-- The answer is not of the form expected. -/
  | unreadable
  /-- It could not be made. -/
  | unsendable (error : RequestError)
deriving DecidableEq, Repr

namespace ApiFailure

/-- The wording of a failure. -/
def message : ApiFailure → String
  | .refused r => "ApiError: " ++ r.message ++ ": " ++ r.reason ++ " (" ++ r.detail ++ ")"
  | .unreadable => "Error deserializing response: " ++ unspecifiedWording
  | .unsendable .emptyName =>
    "Failed to build request: failed to validate request: A non-empty name is required"
  | .unsendable .invalidCharacter =>
    "Failed to build request: failed to build request: invalid uri character"

/-- Whether the server said, by its code, that the object is not there. -/
def isNotFound : ApiFailure → Bool
  | .refused r => r.code == 404
  | _ => false

/-- Whether the server blamed the request. -/
def blamesRequest : ApiFailure → Bool
  | .refused r => r.blamesRequest
  | _ => false

end ApiFailure

/-- Whether a text occurs within another. -/
def occursIn (part : List Char) : List Char → Bool
  | [] => part.isEmpty
  | c :: rest => part.isPrefixOf (c :: rest) || occursIn part rest

/-- Whether a message tells that a kind of objects is not known to the cluster. -/
def tellsUnknownKind (message : String) : Bool :=
  ["404", "not found", "the server could not find the requested resource"].any fun part =>
    occursIn part.toList message.toList

end CredentialOperator
