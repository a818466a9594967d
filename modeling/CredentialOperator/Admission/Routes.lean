import CredentialOperator.Admission.GrantRules
import CredentialOperator.Admission.PodInjection

/-! # The routes of the admission server

Pods are sent to one path and grants to another; a third tells whether the server is alive.

How bodies and objects are read is not for the server to say: it is given readers
(`AdmissionReaders`).
-/

namespace CredentialOperator

/-- The body of an answer. -/
inductive AnswerBody where
  /-- A JSON value. -/
  | json (value : Json)
  /-- A text. -/
  | text (value : String)
deriving DecidableEq, Repr

/-- The answer to a request. -/
structure AdmissionAnswer where
  /-- The status code. -/
  status : Nat
  /-- The body. -/
  body : AnswerBody
deriving DecidableEq, Repr

namespace AdmissionAnswer

/-- The answer to a request that failed. -/
def ofFailure (f : AdmissionFailure) : AdmissionAnswer := ⟨f.status, .json f.toJson⟩

/-- An answer without a body. -/
def empty (status : Nat) : AdmissionAnswer := ⟨status, .text ""⟩

end AdmissionAnswer

/-- The routes of the admission server. -/
inductive Route where
  /-- Where pods are sent. -/
  | pods
  /-- Where grants are sent. -/
  | grants
  /-- Where it is asked whether the server is alive. -/
  | health
deriving DecidableEq, Repr

namespace Route

/-- The path of a route. -/
def path : Route → String
  | .pods => "/mutate/pods"
  | .grants => "/validate/credentialgrants"
  | .health => "/healthz"

/-- The route to a target, of which the query does not count. -/
def ofTarget? (target : String) : Option Route :=
  let path := String.ofList (target.toList.takeWhile (· ≠ '?'))
  [.pods, .grants, .health].find? (·.path = path)

end Route

/-- What the admission server is given to read with.

The readers that it has unless it is given others go by the forms of what they look for.  They are
no measure of what can be read: the first takes a body as a whole and turns it away also for what
stands where nothing is looked for, the second leaves open what stands deep in a pod, and none of
them takes a list for an object. -/
structure AdmissionReaders where
  /-- The kind and the question of the review in a body. -/
  review? : ByteArray → Option (TypeName × Option ReviewRequest) := Review.read?
  /-- The pod that an object is. -/
  pod? : Json → Option Pod := Pod.ofJson?
  /-- The grant that an object is. -/
  grant? : Json → Option Grant := Grant.ofJson?

/-- Answers the review in the body of a request. -/
def answerReview (body : ByteArray) (answer : ReviewRequest → Program ReviewResponse)
    (review? : ByteArray → Option (TypeName × Option ReviewRequest) := Review.read?) :
    Program AdmissionAnswer :=
  match Review.parse body review? with
  | .error f => pure (.ofFailure f)
  | .ok review => do
    let response ← answer review.request
    pure ⟨200, .json (response.review review.type)⟩

/-- Answers a request to the admission server. -/
def serveAdmission (method target : String) (body : ByteArray) (readers : AdmissionReaders := {}) :
    Program AdmissionAnswer :=
  match Route.ofTarget? target with
  | none => pure (.empty 404)
  | some .pods =>
    if method = "POST" then answerReview body (·.mutatePod readers.pod?) readers.review?
    else pure (.empty 405)
  | some .grants =>
    if method = "POST" then
      answerReview body (fun q => pure (q.validateGrant readers.grant?)) readers.review?
    else pure (.empty 405)
  | some .health =>
    if method = "GET" then pure ⟨200, .text "ok"⟩
    else if method = "HEAD" then pure (.empty 200)
    else pure (.empty 405)

end CredentialOperator
