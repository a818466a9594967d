import CredentialOperator.Admission.Failure
import CredentialOperator.Json.Patch
import CredentialOperator.Json.Reader
import CredentialOperator.Json.Shape
import CredentialOperator.Json.Writer
import CredentialOperator.Resource.Dynamic
import CredentialOperator.Resource.Secret

/-! # Admission reviews

The server of the cluster asks about an object before it stores it: it sends a review with a
request and is answered with a review of the same kind with a response.  The response names
the request that it answers.
-/

namespace CredentialOperator

/-- What is about to be done to an object. -/
inductive Operation where
  /-- It is stored for the first time. -/
  | create
  /-- It is changed. -/
  | update
  /-- It is removed. -/
  | delete
  /-- It is connected to. -/
  | connect
deriving DecidableEq, Repr

/-- Reads an operation. -/
def Operation.ofText? (s : String) : Option Operation :=
  if s = "CREATE" then some .create
  else if s = "UPDATE" then some .update
  else if s = "DELETE" then some .delete
  else if s = "CONNECT" then some .connect
  else none

/-- A question about an object. -/
structure ReviewRequest where
  /-- What tells this question from others. -/
  uid : String
  /-- What is about to be done. -/
  operation : Operation
  /-- The namespace of the object. -/
  ns : Option String
  /-- The object as it will be. -/
  object : Option DynamicObject
deriving DecidableEq

/-- A review that carries a question. -/
structure Review where
  /-- The kind of the review, to be given back. -/
  type : TypeName
  /-- The question. -/
  request : ReviewRequest
deriving DecidableEq

/-- The answer to a question. -/
structure ReviewResponse where
  /-- The question that is answered. -/
  uid : String
  /-- Whether the object may be stored. -/
  allowed : Bool := true
  /-- A status code for a refusal. -/
  code : Option Nat := none
  /-- Why the object may not be stored, for people. -/
  message : Option String := none
  /-- Why the object may not be stored, for programs. -/
  reason : Option String := none
  /-- The change to be made to the object. -/
  patch : Option Json.Patch := none
  /-- Warnings for whoever asked. -/
  warnings : List String := []
deriving DecidableEq

namespace ReviewRequest

/-- The answer that lets an object pass as it is. -/
def allow (q : ReviewRequest) : ReviewResponse := { uid := q.uid }

/-- The answer that refuses an object. -/
def deny (q : ReviewRequest) (message : String) : ReviewResponse :=
  { uid := q.uid, allowed := false, message := some message }

/-- The answer to a question that makes no sense. -/
def badRequest (q : ReviewRequest) (message : String) : ReviewResponse :=
  { q.deny message with code := some 400, reason := some "BadRequest" }

/-! ## Reading -/

/-- Reads the names of a kind: group, version and kind. -/
def kindNames? (j : Json) : Option Unit := do
  let fields ← j.asObject?
  let _ ← Json.required fields "group" Json.string?
  let _ ← Json.required fields "version" Json.string?
  let _ ← Json.required fields "kind" Json.string?

/-- Reads the names of a resource: group, version and plural. -/
def resourceNames? (j : Json) : Option Unit := do
  let fields ← j.asObject?
  let _ ← Json.required fields "group" Json.string?
  let _ ← Json.required fields "version" Json.string?
  let _ ← Json.required fields "resource" Json.string?

/-- The form of the description of a user. -/
def userShape : Json.Shape :=
  .record [("extra", .map (.list .string)), ("groups", .list .string), ("uid", .string),
    ("username", .string)]

/-- Reads a question. -/
def ofJson? (j : Json) : Option ReviewRequest := do
  let fields ← j.asObject?
  let _ ← Json.required fields "kind" kindNames?
  let _ ← Json.required fields "resource" resourceNames?
  let _ ← Json.optional fields "subResource" Json.string?
  let _ ← Json.optional fields "requestKind" kindNames?
  let _ ← Json.optional fields "requestResource" resourceNames?
  let _ ← Json.optional fields "requestSubResource" Json.string?
  let _ ← Json.defaulted fields "name" "" Json.string?
  let _ ← Json.required fields "userInfo" (Json.shaped? userShape)
  let _ ← Json.optional fields "oldObject" DynamicObject.ofJson?
  let _ ← Json.defaulted fields "dryRun" false Json.bool?
  let _ ← Json.optional fields "options" some
  some {
    uid := ← Json.required fields "uid" Json.string?
    operation := ← Json.required fields "operation" (Json.named? Operation.ofText?)
    ns := ← Json.optional fields "namespace" Json.string?
    object := ← Json.optional fields "object" DynamicObject.ofJson? }

end ReviewRequest

namespace Review

/-- Reads an answer, which a question should not carry. -/
def response? (j : Json) : Option Unit := do
  let fields ← j.asObject?
  let _ ← Json.required fields "uid" Json.string?
  let _ ← Json.required fields "allowed" Json.bool?
  let _ ← Json.required fields "status" ErrorResponse.plainStatus?
  let _ ← Json.optional fields "patch" (Json.list? (Json.integer? 0 256))
  let _ ← Json.optional fields "patchType" (Json.named? fun s =>
    if s = "JSONPatch" then some () else none)
  let _ ← Json.defaulted fields "auditAnnotations" ∅ Json.stringMap?
  let _ ← Json.optional fields "warnings" Json.strings?

/-- The kind and the question of a review, if it carries one. -/
def parts? (j : Json) : Option (TypeName × Option ReviewRequest) := do
  let fields ← j.asObject?
  let apiVersion ← Json.required fields "apiVersion" Json.string?
  let kind ← Json.required fields "kind" Json.string?
  let request ← Json.optional fields "request" ReviewRequest.ofJson?
  let _ ← Json.optional fields "response" response?
  some (⟨apiVersion, kind⟩, request)

/-- Reads the body of a request as a whole: its bytes must be those of a text, and this that of a
value, also where nothing is looked for. -/
def read? (body : ByteArray) : Option (TypeName × Option ReviewRequest) :=
  ((String.fromUTF8? body).bind Json.ofText?).bind parts?

/-- The review in the body of a request. -/
def parse (body : ByteArray)
    (review? : ByteArray → Option (TypeName × Option ReviewRequest) := read?) :
    Except AdmissionFailure Review :=
  match review? body with
  | none => .error .malformed
  | some (_, none) => .error .noRequest
  | some (type, some request) => .ok { type, request }

end Review

namespace ReviewResponse

/-- The bytes of a patch, as a list of numbers. -/
def patchBytes (patch : Json.Patch) : Json :=
  let text := (Json.array (patch.map Json.Operation.toJson)).render
  .array ((Secret.bytesOf text).map fun b => Json.ofNat b.toNat)

/-- An answer as a value. -/
def toJson (r : ReviewResponse) : Json :=
  .object <|
    Json.entry "uid" (.string r.uid) ++
    Json.entry "allowed" (.bool r.allowed) ++
    Json.entry "status" (.object <|
      Json.optionalEntry "code" Json.ofNat r.code ++
      Json.optionalEntry "message" .string (r.message.filter (!·.isEmpty)) ++
      Json.optionalEntry "reason" .string r.reason) ++
    Json.optionalEntry "patch" patchBytes r.patch ++
    Json.optionalEntry "patchType" .string (r.patch.map fun _ => "JSONPatch") ++
    Json.entries "warnings" .string r.warnings

/-- The review that carries an answer. -/
def review (r : ReviewResponse) (type : TypeName) : Json :=
  .object [("apiVersion", .string type.apiVersion), ("kind", .string type.kind),
    ("response", r.toJson)]

end ReviewResponse

end CredentialOperator
