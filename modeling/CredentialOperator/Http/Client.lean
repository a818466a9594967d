import CredentialOperator.Cluster.Request
import CredentialOperator.Http.Reply

/-! # Requests as exchanges

How each request is carried over HTTP: where the objects of each kind stand, with which
parameters they are changed, and how the replies are read.  Statuses are written as merge
patches and artifacts are applied with force; finalizers are read first, and written back
together with the version that was read, so that a change in between makes the server
refuse.

Names are written into URLs as they are.  What then goes over the wire is `HttpMessage.sent?`.
-/

namespace CredentialOperator

/-- An exchange that ends with a result or with the failure of a request. -/
abbrev Conversation (α : Type) : Type := ExceptT ApiFailure Exchange α

namespace Paths

/-- Where the kinds of a group stand; the core kinds have a place of their own. -/
def group (name version : String) : String :=
  if name.isEmpty then "/api/" ++ version else s!"/apis/{name}/{version}"

/-- Where objects of a kind in a namespace stand. -/
def inNamespace (root ns plural : String) : String := s!"{root}/namespaces/{ns}/{plural}"

/-- Where the operator's kinds stand. -/
def operator : String := group operatorGroup operatorVersion

/-- Where a provider stands. -/
def provider (name : String) : String := operator ++ "/credentialproviders/" ++ name

/-- Where the grants of all namespaces are listed. -/
def allGrants : String := operator ++ "/credentialgrants"

/-- Where the grants of a namespace are listed. -/
def grants (ns : String) : String := inNamespace operator ns "credentialgrants"

/-- Where a grant stands. -/
def grant (key : ObjectKey) : String := grants key.ns ++ "/" ++ key.name

/-- Where a namespace stands. -/
def namespaceOf (name : String) : String := group "" "v1" ++ "/namespaces/" ++ name

/-- Where a Secret stands. -/
def secret (key : ObjectKey) : String :=
  inNamespace (group "" "v1") key.ns "secrets" ++ "/" ++ key.name

/-- Where an object of any kind stands. -/
def dynamic (kind : ResourceKind) (key : ObjectKey) : String :=
  inNamespace (group kind.group kind.version) key.ns kind.plural ++ "/" ++ key.name

/-- Where the definition of a kind stands. -/
def definition (name : String) : String :=
  group "apiextensions.k8s.io" "v1" ++ "/customresourcedefinitions/" ++ name

/-- Where the events of a namespace are stored. -/
def events (ns : String) : String := inNamespace (group "events.k8s.io" "v1") ns "events"

/-- Whether a character may stand in a path as it is: neither a blank or control nor one of
those that end a path or must be escaped. -/
def isPathChar (c : Char) : Bool :=
  0x21 ≤ c.toNat && c != '#' && c != '<' && c != '>' && c != '?' && c != '\x60'

/-- Whether a character may stand in a query as it is. -/
def isQueryChar (c : Char) : Bool :=
  0x21 ≤ c.toNat && c != '"' && c != '#' && c != '<' && c != '>'

/-- Whether a character ends a path: a query begins there, or a fragment. -/
def isMark (c : Char) : Bool := c == '?' || c == '#'

/-- The path that a message reaches which is sent to a path: the first mark ends it. -/
def reached (path : String) : String := String.ofList (path.toList.takeWhile (!isMark ·))

end Paths

/-! ## URLs -/

namespace HttpMessage

/-- The parameters that a query spells out, as they are written there. -/
def parameters (query : List Char) : List (String × String) :=
  ((query.splitOn '&').filter (!·.isEmpty)).map fun p =>
    (String.ofList (p.takeWhile (· != '=')), String.ofList ((p.dropWhile (· != '=')).drop 1))

/-- The query of a message whose path has an end of its own, with the rest of the path from
there on.  What follows a `?` comes before the parameters of the message, which are set off by
another `?` unless an object is read; what follows a `#` is not sent, and these neither. -/
def query? (m : HttpMessage) (rest : List Char) : Option (List (String × String)) :=
  match rest with
  | '?' :: more =>
    let more := if m.method = .get then more else more ++ ['?']
    let own := more.takeWhile (· != '#')
    if own.all Paths.isQueryChar then
      some (parameters own ++ if more.contains '#' then [] else m.query)
    else none
  | '#' :: _ => some []
  | _ => some m.query

/-- The message that goes over the wire, if its URL can be written. -/
@[irreducible]
def sent? (m : HttpMessage) : Option HttpMessage :=
  let path := Paths.reached m.path
  if path.toList.all Paths.isPathChar then
    (m.query? (m.path.toList.dropWhile (!Paths.isMark ·))).map fun query => { m with path, query }
  else none

end HttpMessage

namespace Conversation

/-- Sends a message and reads the reply. -/
def send {α : Type} (m : HttpMessage) (ofJson? : Json → Option α) : Conversation α :=
  match m.sent? with
  | some m => ExceptT.mk do
    let reply ← Exchange.send m
    pure (reply.read ofJson?)
  | none => throw (.unsendable .invalidCharacter)

/-- A conversation about an object, which must have a name. -/
def named {α : Type} (name : String) (c : Conversation α) : Conversation α :=
  if name.isEmpty then throw (.unsendable .emptyName) else c

/-- Takes a refusal that tells by its reason that the object is not there as the absence of a
result. -/
def orAbsent {α : Type} : Except ApiFailure α → Except ApiFailure (Option α)
  | .ok a => .ok (some a)
  | .error (.refused r) => if r.reason = "NotFound" then .ok none else .error (.refused r)
  | .error e => .error e

/-- Reads an object that may be missing. -/
def get? {α : Type} (name path : String) (ofJson? : Json → Option α) : Conversation (Option α) :=
  named name <| ExceptT.mk do
    let result ← (send { method := .get, path } ofJson?).run
    pure (orAbsent result)

/-- Lists objects; the URL of a list has a query, which is empty. -/
def list {α : Type} (path : String) (ofJson? : Json → Option α) : Conversation (List α) :=
  send { method := .get, path := path ++ "?" } (ReplyForm.list? ofJson?)

/-- Merges a patch into an object. -/
def merge {α : Type} (name path : String) (patch : Json) (ofJson? : Json → Option α) :
    Conversation α :=
  named name <| send {
    method := .patch
    path
    query := [("fieldManager", fieldManager)]
    contentType := some "application/merge-patch+json"
    body := some patch } ofJson?

/-- Applies an object, with force. -/
def apply {α : Type} (name path : String) (object : Json) (ofJson? : Json → Option α) :
    Conversation α :=
  named name <| send {
    method := .patch
    path
    query := [("fieldManager", fieldManager), ("force", "true")]
    contentType := some "application/apply-patch+yaml"
    body := some object } ofJson?

/-- Takes a refusal that tells by its code that the object is not there as the result that
nothing was removed. -/
def orMissing : Except ApiFailure Unit → Except ApiFailure Bool
  | .ok () => .ok true
  | .error e => if e.isNotFound then .ok false else .error e

/-- Removes an object; the result tells whether it was there. -/
def delete {α : Type} (name path : String) (ofJson? : Json → Option α) : Conversation Bool :=
  named name <| ExceptT.mk do
    let message : HttpMessage := {
      method := .delete
      path
      contentType := some "application/json"
      body := some (.object []) }
    let result ← (send message (ReplyForm.removed? ofJson?)).run
    pure (orMissing result)

end Conversation

/-! ## Finalizers -/

/-- The merge patch that sets the finalizers of an object, if it still is of the given
version. -/
def finalizersPatch (finalizers : List String) (resourceVersion : Option String) : Json :=
  .object [("metadata", .object <|
    Json.entry "finalizers" (Json.ofStrings finalizers) ++
    Json.optionalEntry "resourceVersion" .string resourceVersion)]

/-- Finalizers with one added, unless it is there. -/
def addFinalizer? (finalizer : String) (finalizers : List String) : Option (List String) :=
  if finalizers.contains finalizer then none else some (finalizers ++ [finalizer])

/-- Finalizers with every occurrence of one removed, if there is any. -/
def removeFinalizer? (finalizer : String) (finalizers : List String) : Option (List String) :=
  if finalizers.contains finalizer then some (finalizers.filter (· ≠ finalizer)) else none

/-- Changes the finalizers of a grant, if it is there and there is something to change. -/
def editFinalizers (key : ObjectKey) (edit : List String → Option (List String)) :
    Conversation Unit := do
  match ← Conversation.get? key.name (Paths.grant key) Grant.ofJson? with
  | none => pure ()
  | some grant =>
    match edit grant.finalizers with
    | none => pure ()
    | some finalizers =>
      let _ ← Conversation.merge key.name (Paths.grant key)
        (finalizersPatch finalizers grant.metadata.resourceVersion) Grant.ofJson?

/-! ## Requests -/

/-- A status as a merge patch. -/
def statusPatch (status : Json) : Json := .object [("status", status)]

/-- The conversation that carries a request. -/
def Request.converse : (r : Request) → Conversation r.Answer
  | .getProvider name => Conversation.get? name (Paths.provider name) Provider.ofJson?
  | .getNamespaceLabels name =>
    Conversation.get? name (Paths.namespaceOf name) ReplyForm.namespaceLabels?
  | .checkSecret key => Conversation.get? key.name (Paths.secret key) Secret.ofJson?
  | .listGrantsOf provider => do
    let grants ← Conversation.list Paths.allGrants Grant.ofJson?
    pure (grants.filter (·.spec.provider = provider))
  | .listGrants ns => Conversation.list (Paths.grants ns) Grant.ofJson?
  | .patchGrantStatus key status => do
    let _ ← Conversation.merge key.name (Paths.grant key ++ "/status")
      (statusPatch status.toJson) Grant.ofJson?
  | .patchProviderStatus name status => do
    let _ ← Conversation.merge name (Paths.provider name ++ "/status")
      (statusPatch status.toJson) Provider.ofJson?
  | .addFinalizer key finalizer => editFinalizers key (addFinalizer? finalizer)
  | .removeFinalizer key finalizer => editFinalizers key (removeFinalizer? finalizer)
  | .getSecret key => Conversation.get? key.name (Paths.secret key) Secret.ofJson?
  | .applySecret key secret => do
    let _ ← Conversation.apply key.name (Paths.secret key) secret.toJson Secret.ofJson?
  | .deleteSecret key => Conversation.delete key.name (Paths.secret key) Secret.ofJson?
  | .getDynamic kind key =>
    Conversation.get? key.name (Paths.dynamic kind key) DynamicObject.ofJson?
  | .applyDynamic kind key object =>
    Conversation.apply key.name (Paths.dynamic kind key) object.toJson DynamicObject.ofJson?
  | .deleteDynamic kind key =>
    Conversation.delete key.name (Paths.dynamic kind key) DynamicObject.ofJson?

end CredentialOperator
