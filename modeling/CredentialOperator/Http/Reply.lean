import CredentialOperator.Failure.Api
import CredentialOperator.Grant.Codec
import CredentialOperator.Http.Exchange
import CredentialOperator.Json.Reader
import CredentialOperator.Json.Shape

/-! # Reading replies

A reply with a status of four or five hundred is a refusal, which says why in its body or, if
the body cannot be read, by its status.  Any other reply must be of the form asked for.
-/

namespace CredentialOperator

/-- The phrase that goes with the status code of a refusal. -/
def statusPhrase? (code : Nat) : Option String :=
  match code with
  | 400 => some "Bad Request"
  | 401 => some "Unauthorized"
  | 402 => some "Payment Required"
  | 403 => some "Forbidden"
  | 404 => some "Not Found"
  | 405 => some "Method Not Allowed"
  | 406 => some "Not Acceptable"
  | 407 => some "Proxy Authentication Required"
  | 408 => some "Request Timeout"
  | 409 => some "Conflict"
  | 410 => some "Gone"
  | 411 => some "Length Required"
  | 412 => some "Precondition Failed"
  | 413 => some "Payload Too Large"
  | 414 => some "URI Too Long"
  | 415 => some "Unsupported Media Type"
  | 416 => some "Range Not Satisfiable"
  | 417 => some "Expectation Failed"
  | 418 => some "I'm a teapot"
  | 421 => some "Misdirected Request"
  | 422 => some "Unprocessable Entity"
  | 423 => some "Locked"
  | 424 => some "Failed Dependency"
  | 425 => some "Too Early"
  | 426 => some "Upgrade Required"
  | 428 => some "Precondition Required"
  | 429 => some "Too Many Requests"
  | 431 => some "Request Header Fields Too Large"
  | 451 => some "Unavailable For Legal Reasons"
  | 500 => some "Internal Server Error"
  | 501 => some "Not Implemented"
  | 502 => some "Bad Gateway"
  | 503 => some "Service Unavailable"
  | 504 => some "Gateway Timeout"
  | 505 => some "HTTP Version Not Supported"
  | 506 => some "Variant Also Negotiates"
  | 507 => some "Insufficient Storage"
  | 508 => some "Loop Detected"
  | 510 => some "Not Extended"
  | 511 => some "Network Authentication Required"
  | _ => none

namespace HttpReply

/-- Whether a reply is a refusal. -/
def isRefusal (r : HttpReply) : Bool := 400 ≤ r.status && r.status < 600

/-- The refusal that a reply with an unreadable body stands for. -/
def refusalByStatus (r : HttpReply) : ErrorResponse where
  status := s!"{r.status} " ++ (statusPhrase? r.status).getD "<unknown status code>"
  message := Text.quoted r.body
  reason := "Failed to parse error data"
  code := r.status

/-- The refusal that a reply stands for. -/
def refusal (r : HttpReply) : ErrorResponse :=
  ((Json.ofText? r.body).bind ErrorResponse.ofJson?).getD r.refusalByStatus

/-- Reads a reply of the form asked for. -/
def read {α : Type} (r : HttpReply) (ofJson? : Json → Option α) : Except ApiFailure α :=
  if r.isRefusal then .error (.refused r.refusal)
  else
    match (Json.ofText? r.body).bind ofJson? with
    | some a => .ok a
    | none => .error .unreadable

end HttpReply

/-! ## Forms of replies -/

namespace ReplyForm

/-- The form of the metadata of a list. -/
def listMetadata : Json.Shape :=
  .record [("continue", .string), ("remainingItemCount", .int64), ("resourceVersion", .string),
    ("selfLink", .string)]

/-- Reads a list of objects. -/
def list? {α : Type} (ofJson? : Json → Option α) (j : Json) : Option (List α) := do
  let fields ← j.asObject?
  let _ ← Json.defaulted fields "metadata" (.object []) (Json.shaped? listMetadata)
  let items ← Json.required fields "items" (Json.nullable? (Json.list? ofJson?))
  some (items.getD [])

/-- Whether an object is of the given kind, as far as it says so. -/
def isOf (apiVersion kind : String) (fields : Fields) : Bool :=
  Json.expects fields "apiVersion" apiVersion && Json.expects fields "kind" kind

/-- Reads an object of a known kind, of which only the metadata count. -/
def metadataOf? (apiVersion kind : String) (known : List (String × Json.Shape)) (j : Json) :
    Option Metadata := do
  let fields ← j.asObject?
  if isOf apiVersion kind fields && Json.Shape.acceptsFields known fields then
    Json.lenientOr fields "metadata" {} Metadata.ofJson?
  else none

/-- The fields of a namespace besides its metadata. -/
def namespaceFields : List (String × Json.Shape) :=
  [("spec", .record [("finalizers", .list .string)]),
    ("status", .record [("conditions", .list (.record [("message", .string),
      ("reason", .string), ("status", .string), ("type", .string)])), ("phase", .string)])]

/-- Reads the labels of a namespace. -/
def namespaceLabels? (j : Json) : Option StringMap :=
  (metadataOf? "v1" "Namespace" namespaceFields j).map fun m => m.labels.getD ∅

/-- The form of a reference to an object. -/
def reference : Json.Shape :=
  .record [("apiVersion", .string), ("fieldPath", .string), ("kind", .string),
    ("name", .string), ("namespace", .string), ("resourceVersion", .string), ("uid", .string)]

/-- The form of an instant. -/
def instant : Json.Shape := .text fun s => (Timestamp.parse? s).isSome

/-- The fields of an event besides its metadata. -/
def eventFields : List (String × Json.Shape) :=
  [("action", .string), ("deprecatedCount", .int32), ("deprecatedFirstTimestamp", instant),
    ("deprecatedLastTimestamp", instant), ("deprecatedSource", .record [("component", .string),
      ("host", .string)]), ("eventTime", instant), ("note", .string), ("reason", .string),
    ("regarding", reference), ("related", reference), ("reportingController", .string),
    ("reportingInstance", .string), ("series", .record [("count", .int32),
      ("lastObservedTime", instant)]), ("type", .string)]

/-- Reads an event, of which nothing counts. -/
def event? (j : Json) : Option Unit :=
  (metadataOf? "events.k8s.io/v1" "Event" eventFields j).map fun _ => ()

/-- The fields of the definition of a kind besides its metadata. -/
def definitionFields : List (String × Json.Shape) :=
  [("spec", .record [("conversion", .record [("strategy", .string)]), ("group", .string),
    ("names", .record [("categories", .list .string), ("kind", .string), ("listKind", .string),
      ("plural", .string), ("shortNames", .list .string), ("singular", .string)]),
    ("preserveUnknownFields", .bool), ("scope", .string),
    ("versions", .list (.record [("additionalPrinterColumns", .list (.record [
      ("description", .string), ("format", .string), ("jsonPath", .string), ("name", .string),
      ("priority", .int32), ("type", .string)])), ("deprecated", .bool),
      ("deprecationWarning", .string), ("name", .string),
      ("schema", .record [("openAPIV3Schema", .record [])]), ("served", .bool),
      ("storage", .bool), ("subresources", .record [("scale", .record []),
        ("status", .any)])]))]),
    ("status", .record [("acceptedNames", .record []), ("conditions", .list (.record [])),
      ("storedVersions", .list .string)])]

/-- Reads the definition of a kind, of which nothing counts. -/
def definition? (j : Json) : Option Unit :=
  (metadataOf? "apiextensions.k8s.io/v1" "CustomResourceDefinition" definitionFields j).map
    fun _ => ()

/-- Reads what is sent back for an object that was removed: a status, or the object. -/
def removed? {α : Type} (ofJson? : Json → Option α) (j : Json) : Option Unit :=
  if j.get? "kind" = some (.string "Status") then ErrorResponse.plainStatus? j
  else (ofJson? j).map fun _ => ()

end ReplyForm

end CredentialOperator
