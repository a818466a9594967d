import CredentialOperator.Admission.Routes
import CredentialOperator.Cluster.Memory
import CredentialOperator.Proofs.Admission.Injection

/-!
# Every review is answered

Whatever is sent to the admission server about pods or grants, and however the cluster answers,
there is an answer: a failure if the body carries no question, and otherwise a review that answers
the question by its uid.  Only a pod that cannot be read is refused, and only a grant that cannot
be read or breaks a rule; a pod for which no grants are found passes as it is
(`admission_answers`).

All of this is so whichever readers the server is given: what it makes of a body or of an object
is what the reader finds there.
-/

namespace CredentialOperator

/-! ## Questions -/

lemma fromUTF8?_toUTF8 (s : String) : String.fromUTF8? s.toUTF8 = some s :=
  dif_pos s.isValidUTF8

namespace Review

variable {body : ByteArray} {type : TypeName} {q : ReviewRequest}
  {review? : ByteArray → Option (TypeName × Option ReviewRequest)}

/-- A body is taken for a review exactly if a question is read in it. -/
lemma parse_eq_ok : parse body review? = .ok ⟨type, q⟩ ↔ review? body = some (type, some q) := by
  unfold parse
  split
  next h => simp [h]
  next h => simp [h]
  next h => simp [h]

lemma status_of_parse_error {failure : AdmissionFailure}
    (h : parse body review? = .error failure) : failure.status = 400 := by
  unfold parse at h
  split at h
  next =>
    cases h
    rfl
  next =>
    cases h
    rfl
  next => cases h

end Review

/-! ## Answers -/

namespace AdmissionAnswer

/-- What the response in an answer says under a name. -/
def said? (a : AdmissionAnswer) (name : String) : Option Json :=
  match a.body with
  | .json value => (value.get? "response").bind (·.get? name)
  | .text _ => none

/-- The status code of the response in an answer. -/
def code? (a : AdmissionAnswer) : Option Json := (a.said? "status").bind (·.get? "code")

/-- The answer lets the object pass. -/
def Admits (a : AdmissionAnswer) : Prop := a.said? "allowed" = some (.bool true)

/-- The answer refuses the object. -/
def Refuses (a : AdmissionAnswer) : Prop := a.said? "allowed" = some (.bool false)

/-- The answer is a verdict on a question, which it names by its uid. -/
structure Answers (a : AdmissionAnswer) (q : ReviewRequest) : Prop where
  status : a.status = 200
  uid : a.said? "uid" = some (.string q.uid)
  verdict : a.Admits ∨ a.Refuses

/-- The answer that carries a response. -/
def ofResponse (type : TypeName) (r : ReviewResponse) : AdmissionAnswer :=
  ⟨200, .json (r.review type)⟩

section

variable {type : TypeName} {r : ReviewResponse}

/-- What an answer says is what the response holds. -/
lemma says_ofResponse :
    (ofResponse type r).said? "uid" = some (.string r.uid) ∧
    (ofResponse type r).said? "allowed" = some (.bool r.allowed) ∧
    (ofResponse type r).said? "patch" = r.patch.map ReviewResponse.patchBytes ∧
    (ofResponse type r).code? = r.code.map Json.ofNat := by
  have said (name : String) : (ofResponse type r).said? name = r.toJson.get? name := by
    simp [said?, ofResponse, ReviewResponse.review, Json.get?, Json.lookup]
  simp [code?, said, ReviewResponse.toJson, Json.get?, Json.lookup_append, Json.lookup_entry,
    Json.lookup_optionalEntry, Json.lookup_entries]

lemma code?_eq_iff {code : Nat} :
    (ofResponse type r).code? = some (Json.ofNat code) ↔ r.code = some code := by
  have exact_code : Function.Injective Json.ofNat := fun m n h => by
    simpa [Json.ofNat, Json.ofInt] using h
  rw [says_ofResponse.2.2.2, ← Option.map_some, (Option.map_injective exact_code).eq_iff]

lemma admits_ofResponse : (ofResponse type r).Admits ↔ r.allowed = true := by
  simp [Admits, says_ofResponse.2.1]

lemma refuses_ofResponse : (ofResponse type r).Refuses ↔ r.allowed = false := by
  simp [Refuses, says_ofResponse.2.1]

lemma unpatched_ofResponse :
    (ofResponse type r).said? "patch" = none ↔ r.patch = none := by
  simp [says_ofResponse.2.2.1]

/-- A response that names the question by its uid is an answer to it. -/
lemma answers_ofResponse {q : ReviewRequest} (uid : r.uid = q.uid) :
    (ofResponse type r).Answers q := by
  refine ⟨rfl, by rw [says_ofResponse.1, uid], ?_⟩
  rw [admits_ofResponse, refuses_ofResponse]
  cases r.allowed <;> simp

end

end AdmissionAnswer

namespace ReviewRequest

variable {q : ReviewRequest}

/-- The question comes with an object that cannot be read. -/
def Unreadable {α : Type} (q : ReviewRequest) (read : Json → Option α) : Prop :=
  ∃ object, q.object = some object ∧ read object.toJson = none

/-! ### Pods -/

/-- A pod passes as it is: there is none, the grants of its namespace cannot be listed, or none of
them is meant for it. -/
inductive LeftAlone (pod? : Json → Option Pod)
    (listing : String → Except ApiFailure (List Grant)) (q : ReviewRequest) : Prop where
  | absent (missing : q.object = none)
  | unlisted {object : DynamicObject} {pod : Pod} {failure : ApiFailure}
      (there : q.object = some object) (decodes : pod? object.toJson = some pod)
      (failed : listing (q.namespaceOf pod) = .error failure)
  | unmeant {object : DynamicObject} {pod : Pod} {grants : List Grant}
      (there : q.object = some object) (decodes : pod? object.toJson = some pod)
      (listed : listing (q.namespaceOf pod) = .ok grants)
      (none_meant : ∀ g ∈ grants, ¬ g.MeantFor pod.labels)

/-- The response is right for a question about a pod: the pod is refused exactly if it cannot be
read, and passes as it is exactly if there is nothing to give it. -/
structure PodVerdict (pod? : Json → Option Pod)
    (listing : String → Except ApiFailure (List Grant)) (q : ReviewRequest) (r : ReviewResponse) :
    Prop where
  uid : r.uid = q.uid
  refused : r.allowed = false ↔ q.Unreadable pod?
  code : r.code = some 400 ↔ q.Unreadable pod?
  alone : r.allowed = true ∧ r.patch = none ↔ q.LeftAlone pod? listing

section

variable {pod? : Json → Option Pod} {listing : String → Except ApiFailure (List Grant)}
  {object : DynamicObject} {pod : Pod}

lemma not_unreadable {α : Type} {read : Json → Option α} {a : α} (there : q.object = some object)
    (decodes : read object.toJson = some a) : ¬ q.Unreadable read := by
  rintro ⟨other, there', fails⟩
  obtain rfl := Option.some.inj (there.symm.trans there')
  rw [decodes] at fails
  cases fails

lemma podVerdict_absent (missing : q.object = none) : PodVerdict pod? listing q q.allow := by
  have readable : ¬ q.Unreadable pod? := by simp [Unreadable, missing]
  exact ⟨rfl, by simp [allow, readable], by simp [allow, readable],
    fun _ => .absent missing, fun _ => ⟨rfl, rfl⟩⟩

lemma podVerdict_unreadable (there : q.object = some object)
    (fails : pod? object.toJson = none) (message : String) :
    PodVerdict pod? listing q (q.badRequest message) := by
  have unreadable : q.Unreadable pod? := ⟨object, there, fails⟩
  refine ⟨rfl, by simp [badRequest, deny, unreadable], by simp [badRequest, unreadable], ?_⟩
  constructor
  · rintro ⟨allowed, -⟩
    cases allowed
  · intro alone
    cases alone with
    | absent missing => cases there.symm.trans missing
    | unlisted there' decodes => exact absurd unreadable (not_unreadable there' decodes)
    | unmeant there' decodes => exact absurd unreadable (not_unreadable there' decodes)

lemma leftAlone_iff (there : q.object = some object)
    (decodes : pod? object.toJson = some pod) :
    q.LeftAlone pod? listing ↔ ∀ grants, listing (q.namespaceOf pod) = .ok grants →
      ∀ g ∈ grants, ¬ g.MeantFor pod.labels := by
  constructor
  · intro alone grants listed
    cases alone with
    | absent missing => cases there.symm.trans missing
    | unlisted there' decodes' failed =>
      obtain rfl := Option.some.inj (there.symm.trans there')
      obtain rfl := Option.some.inj (decodes.symm.trans decodes')
      cases listed.symm.trans failed
    | unmeant there' decodes' listed' none_meant =>
      obtain rfl := Option.some.inj (there.symm.trans there')
      obtain rfl := Option.some.inj (decodes.symm.trans decodes')
      obtain rfl := Except.ok.inj (listed.symm.trans listed')
      exact none_meant
  · intro none_meant
    cases listed : listing (q.namespaceOf pod) with
    | error failure => exact .unlisted there decodes listed
    | ok grants => exact .unmeant there decodes listed (none_meant grants listed)

lemma podVerdict_unlisted (there : q.object = some object)
    (decodes : pod? object.toJson = some pod) {failure : ApiFailure}
    (failed : listing (q.namespaceOf pod) = .error failure) :
    PodVerdict pod? listing q q.allow := by
  have readable : ¬ q.Unreadable pod? := not_unreadable there decodes
  exact ⟨rfl, by simp [allow, readable], by simp [allow, readable],
    fun _ => .unlisted there decodes failed, fun _ => ⟨rfl, rfl⟩⟩

lemma podVerdict_listed (there : q.object = some object)
    (decodes : pod? object.toJson = some pod) {grants : List Grant}
    (listed : listing (q.namespaceOf pod) = .ok grants) :
    PodVerdict pod? listing q (q.podAnswer pod grants) := by
  have readable : ¬ q.Unreadable pod? := not_unreadable there decodes
  have alone : q.LeftAlone pod? listing ↔ (grants.filter fun g => g.MeantFor pod.labels) = [] := by
    rw [leftAlone_iff there decodes, listed]
    simp [List.filter_eq_nil_iff]
  unfold podAnswer
  by_cases none_chosen : (grants.filter fun g => g.MeantFor pod.labels) = []
  · rw [if_pos none_chosen]
    exact ⟨rfl, by simp [allow, readable], by simp [allow, readable],
      fun _ => alone.2 none_chosen, fun _ => ⟨rfl, rfl⟩⟩
  · rw [if_neg none_chosen]
    exact ⟨rfl, by simp [allow, readable], by simp [allow, readable], by simp [alone, none_chosen]⟩

end

section

variable {σ : Type} {b : Backend σ} {s : σ} {pod? : Json → Option Pod}

/-- Measuring what is injected does not change the answer. -/
lemma run_injectGrants (ns : String) (pod : Pod) (grants : List Grant) :
    ((q.injectGrants ns pod grants).run b s).1 = q.podAnswer pod grants := by
  unfold injectGrants podAnswer
  rw [Grant.filter_selects]
  cases grants.filter fun g => g.MeantFor pod.labels with
  | nil => rfl
  | cons g rest => simp [Program.run_bind]

/-- The answer to a question about a pod, however the grants are listed. -/
lemma run_mutatePod {object : DynamicObject} {pod : Pod} (there : q.object = some object)
    (decodes : pod? object.toJson = some pod) :
    ((q.mutatePod pod?).run b s).1 = match (b.answer (.listGrants (q.namespaceOf pod)) s).1 with
      | .error _ => q.allow
      | .ok grants => q.podAnswer pod grants := by
  rw [mutatePod_eq there decodes, Program.run_bind, Program.send, Program.run_request]
  cases (b.answer (.listGrants (q.namespaceOf pod)) s).1 with
  | error failure => rfl
  | ok grants => exact run_injectGrants ..

/-- Every question about a pod is answered rightly. -/
lemma podVerdict_run (b : Backend σ) (s : σ) (pod? : Json → Option Pod) (q : ReviewRequest) :
    PodVerdict pod? (fun ns => (b.answer (.listGrants ns) s).1) q
      ((q.mutatePod pod?).run b s).1 := by
  cases there : q.object with
  | none =>
    have answered : q.mutatePod pod? = .done q.allow := by simp [mutatePod, there]
    rw [answered]
    exact podVerdict_absent there
  | some object =>
    cases decodes : pod? object.toJson with
    | none =>
      simp only [mutatePod, there, decodes]
      exact podVerdict_unreadable there decodes _
    | some pod =>
      rw [run_mutatePod there decodes]
      cases listed : (b.answer (.listGrants (q.namespaceOf pod)) s).1 with
      | error failure => exact podVerdict_unlisted there decodes listed
      | ok grants => exact podVerdict_listed there decodes listed

end

/-! ### Grants -/

/-- The question is about an object that is about to be stored. -/
def Stores (q : ReviewRequest) : Prop := q.operation = .create ∨ q.operation = .update

variable {grant? : Json → Option Grant}

/-- The question comes with a grant that breaks a rule. -/
def BreaksRules (grant? : Json → Option Grant) (q : ReviewRequest) : Prop :=
  ∃ object g failure, q.object = some object ∧ grant? object.toJson = some g ∧
    g.spec.validate (q.ns.getD "" ++ "/" ++ g.name) = .error failure

/-- The response is right for a question about a grant: a grant that is about to be stored is
refused exactly if it cannot be read or breaks a rule. -/
structure GrantVerdict (grant? : Json → Option Grant) (q : ReviewRequest) (r : ReviewResponse) :
    Prop where
  uid : r.uid = q.uid
  refused : r.allowed = false ↔ q.Stores ∧ (q.Unreadable grant? ∨ q.BreaksRules grant?)
  code : r.code = some 400 ↔ q.Stores ∧ q.Unreadable grant?

lemma grantVerdict_allow (sound : q.Stores → ¬ q.Unreadable grant? ∧ ¬ q.BreaksRules grant?)
    (warnings : List String) : GrantVerdict grant? q { q.allow with warnings } := by
  refine ⟨rfl, ?_, ?_⟩
  · simp only [allow, Bool.true_eq_false, false_iff, not_and, not_or]
    exact sound
  · simp only [allow, reduceCtorEq, false_iff, not_and]
    exact fun stores => (sound stores).1

section

variable {object : DynamicObject} {g : Grant}

lemma validateGrant_of_unreadable (stores : q.Stores) (there : q.object = some object)
    (fails : grant? object.toJson = none) :
    q.validateGrant grant? =
      q.badRequest ("failed to decode CredentialGrant: " ++ unspecifiedWording) := by
  rcases stores with operation | operation <;>
    simp only [validateGrant, operation, there, fails]

lemma validateGrant_of_ok {warnings : List String} (stores : q.Stores)
    (there : q.object = some object) (decodes : grant? object.toJson = some g)
    (valid : g.spec.validate (q.ns.getD "" ++ "/" ++ g.name) = .ok warnings) :
    q.validateGrant grant? = { q.allow with warnings } := by
  rcases stores with operation | operation <;>
    simp only [validateGrant, operation, there, decodes, valid]

lemma validateGrant_of_error {failure : Failure} (stores : q.Stores)
    (there : q.object = some object) (decodes : grant? object.toJson = some g)
    (invalid : g.spec.validate (q.ns.getD "" ++ "/" ++ g.name) = .error failure) :
    q.validateGrant grant? = q.deny failure.message := by
  rcases stores with operation | operation <;>
    simp only [validateGrant, operation, there, decodes, invalid]

end

/-- Every question about a grant is answered rightly. -/
lemma grantVerdict_validateGrant (grant? : Json → Option Grant) (q : ReviewRequest) :
    GrantVerdict grant? q (q.validateGrant grant?) := by
  by_cases stores : q.Stores
  swap
  · have passes : q.validateGrant grant? = q.allow := by
      unfold validateGrant
      split
      · exact absurd (.inl ‹_›) stores
      · exact absurd (.inr ‹_›) stores
      · rfl
    rw [passes]
    exact grantVerdict_allow (fun s => absurd s stores) []
  cases there : q.object with
  | none =>
    have passes : q.validateGrant grant? = q.allow := by simp [validateGrant, there]
    rw [passes]
    exact grantVerdict_allow (by simp [Unreadable, BreaksRules, there]) []
  | some object =>
    cases decodes : grant? object.toJson with
    | none =>
      have unreadable : q.Unreadable grant? := ⟨object, there, decodes⟩
      rw [validateGrant_of_unreadable stores there decodes]
      exact ⟨rfl, by simp [badRequest, deny, stores, unreadable],
        by simp [badRequest, stores, unreadable]⟩
    | some g =>
      have readable : ¬ q.Unreadable grant? := not_unreadable there decodes
      have rules : q.BreaksRules grant? ↔
          ∃ failure, g.spec.validate (q.ns.getD "" ++ "/" ++ g.name) = .error failure := by
        simp [BreaksRules, there, decodes]
      cases valid : g.spec.validate (q.ns.getD "" ++ "/" ++ g.name) with
      | ok warnings =>
        rw [validateGrant_of_ok stores there decodes valid]
        exact grantVerdict_allow (fun _ => ⟨readable, by simp [rules, valid]⟩) warnings
      | error failure =>
        rw [validateGrant_of_error stores there decodes valid]
        exact ⟨rfl, by simp [deny, stores, rules, valid], by simp [deny, readable]⟩

end ReviewRequest

/-! ## The server -/

section

variable {σ : Type} {b : Backend σ} {s : σ} {body : ByteArray} {type : TypeName} {q : ReviewRequest}
  {answer : ReviewRequest → Program ReviewResponse}
  {review? : ByteArray → Option (TypeName × Option ReviewRequest)}

/-- A body with a question is answered with the response to it. -/
lemma run_answerReview (asked : review? body = some (type, some q)) :
    ((answerReview body answer review?).run b s).1 = .ofResponse type ((answer q).run b s).1 := by
  unfold answerReview
  rw [Review.parse_eq_ok.2 asked]
  simp [Program.run_bind, AdmissionAnswer.ofResponse]

/-- A body is answered with the status of a bad request exactly if there is no question in it. -/
lemma status_eq_400_iff : ((answerReview body answer review?).run b s).1.status = 400 ↔
    ¬ ∃ type q, review? body = some (type, some q) := by
  constructor
  · rintro refused ⟨type, q, asked⟩
    rw [run_answerReview asked] at refused
    cases refused
  · intro unasked
    unfold answerReview
    cases parsed : Review.parse body review? with
    | error failure => exact Review.status_of_parse_error parsed
    | ok found => exact absurd ⟨_, _, Review.parse_eq_ok.1 parsed⟩ unasked

end

/-- Every body that is posted about pods or grants is answered, whatever the cluster answers and
whatever is used to read: with the status of a bad request exactly if no question is found in it,
and otherwise with a verdict on this question.  A pod is refused exactly if it cannot be read, and
passes as it is exactly if there is nothing to give it; a grant is refused exactly if it is about
to be stored and cannot be read or breaks a rule. -/
theorem admission_answers {σ : Type} (b : Backend σ) (s : σ) (readers : AdmissionReaders)
    (body : ByteArray) :
    let pods := ((serveAdmission "POST" "/mutate/pods" body readers).run b s).1
    let grants := ((serveAdmission "POST" "/validate/credentialgrants" body readers).run b s).1
    (pods.status = 400 ↔ ¬ ∃ type q, readers.review? body = some (type, some q)) ∧
    (grants.status = 400 ↔ ¬ ∃ type q, readers.review? body = some (type, some q)) ∧
    ∀ type q, readers.review? body = some (type, some q) →
      (pods.Answers q ∧
        (pods.Refuses ↔ q.Unreadable readers.pod?) ∧
        (pods.code? = some (Json.ofNat 400) ↔ q.Unreadable readers.pod?) ∧
        (pods.Admits ∧ pods.said? "patch" = none ↔
          q.LeftAlone readers.pod? fun ns => (b.answer (.listGrants ns) s).1)) ∧
      (grants.Answers q ∧
        (grants.Refuses ↔
          q.Stores ∧ (q.Unreadable readers.grant? ∨ q.BreaksRules readers.grant?)) ∧
        (grants.code? = some (Json.ofNat 400) ↔ q.Stores ∧ q.Unreadable readers.grant?)) := by
  intro pods grants
  have pods_eq : pods =
      ((answerReview body (·.mutatePod readers.pod?) readers.review?).run b s).1 := rfl
  have grants_eq : grants = ((answerReview body (fun q => pure (q.validateGrant readers.grant?))
      readers.review?).run b s).1 := rfl
  refine ⟨by rw [pods_eq, status_eq_400_iff], by rw [grants_eq, status_eq_400_iff], ?_⟩
  intro type q asked
  rw [pods_eq, grants_eq, run_answerReview asked, run_answerReview asked]
  have pod := q.podVerdict_run b s readers.pod?
  have grant := q.grantVerdict_validateGrant readers.grant?
  refine ⟨⟨AdmissionAnswer.answers_ofResponse pod.uid, ?_, ?_, ?_⟩,
    AdmissionAnswer.answers_ofResponse grant.uid, ?_, ?_⟩
  · rw [AdmissionAnswer.refuses_ofResponse, pod.refused]
  · rw [AdmissionAnswer.code?_eq_iff, pod.code]
  · rw [AdmissionAnswer.admits_ofResponse, AdmissionAnswer.unpatched_ofResponse, pod.alone]
  · rw [AdmissionAnswer.refuses_ofResponse, ← grant.refused]
    rfl
  · rw [AdmissionAnswer.code?_eq_iff, ← grant.code]
    rfl

namespace Sample

/-- A review that carries the question about the pod. -/
def podReview : Fields :=
  [("apiVersion", .string "admission.k8s.io/v1"), ("kind", .string "AdmissionReview"),
    ("request", podRequest)]

/-- A cluster whose server does not list grants. -/
def unlistable : Memory where
  now := .epoch
  faults := [{ kind := .listGrants, response := ⟨"Failure", "unavailable", "Unavailable", 503⟩ }]

lemma podReview_read :
    Json.ofText? (Json.object podReview).render = some (.object podReview) := by
  unfold Json.ofText?
  -- the characters of the parts are joined as lists, since decoding a long text takes long
  simp only [podReview, podRequest, sentPod, Json.render, Json.renderFields, Json.renderItems,
    Json.renderString, String.toList_append, String.toList_ofList, String.toList_intercalate,
    List.map_cons, List.map_nil]
  decide +kernel

/-- The question about the pod is read in the review. -/
lemma podReview_asks : ({} : AdmissionReaders).review? (Json.object podReview).render.toUTF8 =
    some (⟨"admission.k8s.io/v1", "AdmissionReview"⟩, some podQuestion) := by
  have own (body : ByteArray) : ({} : AdmissionReaders).review? body =
      ((String.fromUTF8? body).bind Json.ofText?).bind Review.parts? := rfl
  rw [own, fromUTF8?_toUTF8, Option.bind_some, podReview_read]
  rfl

end Sample

/-- The pod of the sample passes as it is when the grants cannot be listed; where grants are
expected it is refused, as one that cannot be read. -/
theorem sample_admission_answers :
    let body := (Json.object Sample.podReview).render.toUTF8
    let pods := ((serveAdmission "POST" "/mutate/pods" body).run Memory.backend
      Sample.unlistable).1
    let grants := ((serveAdmission "POST" "/validate/credentialgrants" body).run Memory.backend
      Sample.unlistable).1
    (pods.Answers Sample.podQuestion ∧ pods.Admits ∧ pods.said? "patch" = none) ∧
      grants.Answers Sample.podQuestion ∧ grants.Refuses ∧
        grants.code? = some (Json.ofNat 400) := by
  intro body pods grants
  obtain ⟨-, -, each⟩ := admission_answers Memory.backend Sample.unlistable {} body
  obtain ⟨⟨pod_answered, -, -, alone⟩, grant_answered, refused, code⟩ :=
    each _ _ Sample.podReview_asks
  obtain ⟨object, there, decodes⟩ := Option.bind_eq_some_iff.1 Sample.pod_decodes
  have unlisted : Sample.podQuestion.LeftAlone Pod.ofJson? fun ns =>
      (Memory.backend.answer (.listGrants ns) Sample.unlistable).1 :=
    .unlisted there decodes rfl
  have stores : Sample.podQuestion.Stores := .inl rfl
  have no_grant : Sample.podQuestion.Unreadable Grant.ofJson? := ⟨_, rfl, by decide +kernel⟩
  exact ⟨⟨pod_answered, alone.2 unlisted⟩, grant_answered, refused.2 ⟨stores, .inl no_grant⟩,
    code.2 ⟨stores, no_grant⟩⟩

end CredentialOperator
