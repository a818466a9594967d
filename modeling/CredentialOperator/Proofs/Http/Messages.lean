import CredentialOperator.Http.Client
import CredentialOperator.Json.MergePatch
import Mathlib.Data.List.TakeWhile
import Mathlib.Tactic.Common

/-!
# The messages of exchanges

The messages that an exchange can send, whatever the replies, and what a message that carries a
merge patch makes of the object that it is about.  `Request.sends_patchGrantStatus` says which
message carries the status of a grant.

A message reaches the path that it is sent to as far as this has no mark
(`HttpMessage.eq_of_sent?`, `Paths.reached_eq_iff`), and one whose path can be written as it is
goes over the wire without a change (`HttpMessage.sent?_of_plain`).
-/

namespace CredentialOperator

/-! ## What is sent -/

namespace Paths

/-- No mark is in a text. -/
def Unmarked (text : String) : Prop := '?' ∉ text.toList ∧ '#' ∉ text.toList

variable {path root rest : String} {c : Char}

instance : Decidable (Unmarked path) := inferInstanceAs (Decidable (_ ∧ _))

lemma isMark_iff : isMark c = true ↔ c = '?' ∨ c = '#' := by
  simp [isMark]

lemma isMark_of_isPathChar (plain : isPathChar c = true) : isMark c = false := by
  rw [Bool.eq_false_iff, ne_eq, isMark_iff]
  rintro (rfl | rfl) <;> cases plain

lemma unmarked_iff : Unmarked path ↔ ∀ c ∈ path.toList, (!isMark c) = true := by
  simp only [Unmarked, Bool.not_eq_true', Bool.eq_false_iff, ne_eq, isMark_iff, not_or]
  constructor
  · rintro ⟨no_query, no_fragment⟩ c there
    exact ⟨fun is => no_query (is ▸ there), fun is => no_fragment (is ▸ there)⟩
  · intro unmarked
    exact ⟨fun there => (unmarked _ there).1 rfl, fun there => (unmarked _ there).2 rfl⟩

@[simp] lemma unmarked_append : Unmarked (root ++ rest) ↔ Unmarked root ∧ Unmarked rest := by
  simp only [unmarked_iff, String.toList_append, List.forall_mem_append]

/-- A path is reached as a whole if there is no mark in it. -/
lemma reached_eq_iff : reached path = path ↔ Unmarked path := by
  rw [reached, ← String.toList_inj, String.toList_ofList, List.takeWhile_eq_self_iff, unmarked_iff]

/-- A path is cut behind what has no mark. -/
lemma reached_append (unmarked : Unmarked root) :
    reached (root ++ rest) = root ++ reached rest := by
  rw [reached, String.toList_append, List.takeWhile_append_of_pos (unmarked_iff.1 unmarked),
    String.ofList_append, String.ofList_toList, reached]

/-! ### Where the kinds stand -/

lemma unmarked_inNamespace {ns plural : String} :
    Unmarked (inNamespace root ns plural) ↔ Unmarked root ∧ Unmarked ns ∧ Unmarked plural := by
  have segment : Unmarked "/namespaces/" ∧ Unmarked "/" := by decide
  change Unmarked (root ++ "/namespaces/" ++ ns ++ "/" ++ plural) ↔ _
  simp [segment, and_assoc]

lemma unmarked_operator : Unmarked operator := by decide

lemma unmarked_provider {name : String} : Unmarked (provider name) ↔ Unmarked name := by
  have segment : Unmarked "/credentialproviders/" := by decide
  simp [provider, unmarked_operator, segment]

lemma unmarked_grant {key : ObjectKey} :
    Unmarked (grant key) ↔ Unmarked key.ns ∧ Unmarked key.name := by
  have segment : Unmarked "credentialgrants" ∧ Unmarked "/" := by decide
  simp [grant, grants, unmarked_inNamespace, unmarked_operator, segment]

lemma reached_secret {key : ObjectKey} (unmarked : Unmarked key.ns) :
    reached (secret key) = secret ⟨key.ns, reached key.name⟩ := by
  have segment : Unmarked (group "" "v1") ∧ Unmarked "secrets" ∧ Unmarked "/" := by decide
  exact reached_append (by simp [unmarked_inNamespace, unmarked, segment])

lemma reached_dynamic {kind : ResourceKind} {key : ObjectKey}
    (plain : Unmarked (group kind.group kind.version) ∧ Unmarked kind.plural)
    (unmarked : Unmarked key.ns) :
    reached (dynamic kind key) = dynamic kind ⟨key.ns, reached key.name⟩ := by
  have segment : Unmarked "/" := by decide
  exact reached_append (by simp [unmarked_inNamespace, unmarked, plain, segment])

end Paths

namespace HttpMessage

variable {m m' : HttpMessage}

/-- Nothing of a message changes on its way but where it goes. -/
lemma eq_of_sent? (sent : m.sent? = some m') :
    ∃ query, m' = { m with path := Paths.reached m.path, query } := by
  unfold sent? at sent
  obtain ⟨query, -, rfl⟩ := Option.map_eq_some_iff.1 (Option.ite_none_right_eq_some.1 sent).2
  exact ⟨query, rfl⟩

lemma method_of_sent? (sent : m.sent? = some m') : m'.method = m.method := by
  obtain ⟨query, rfl⟩ := eq_of_sent? sent
  rfl

lemma path_of_sent? (sent : m.sent? = some m') : m'.path = Paths.reached m.path := by
  obtain ⟨query, rfl⟩ := eq_of_sent? sent
  rfl

/-- A message whose path can be written as it is goes over the wire without a change. -/
lemma sent?_of_plain (plain : m.path.toList.all Paths.isPathChar = true) : m.sent? = some m := by
  have unmarked : ∀ c ∈ m.path.toList, (!Paths.isMark c) = true := fun c there => by
    rw [Paths.isMark_of_isPathChar (List.all_eq_true.1 plain c there), Bool.not_false]
  have whole : Paths.reached m.path = m.path :=
    Paths.reached_eq_iff.2 (Paths.unmarked_iff.2 unmarked)
  simp only [sent?, whole, plain, if_true, List.dropWhile_eq_nil_iff.2 unmarked, query?,
    Option.map_some]

end HttpMessage

/-- Whether an exchange can send a message, if the replies are right. -/
def Exchange.Sends {α : Type} (m : HttpMessage) : Exchange α → Prop
  | .done _ => False
  | .call m' next => m = m' ∨ ∃ reply, (next reply).Sends m

namespace Exchange

variable {α β : Type} {m : HttpMessage}

/-- A sequence whose second part sends nothing sends what the first one does. -/
lemma sends_bind {e : Exchange α} {f : α → Exchange β} (quiet : ∀ a, ¬ (f a).Sends m) :
    (e >>= f).Sends m ↔ e.Sends m := by
  induction e with
  | done a => simpa [Sends] using quiet a
  | call m' next ih => simp [Sends, ih]

/-- A sequence sends what one of its parts does. -/
lemma sends_of_bind {e : Exchange α} {f : α → Exchange β} (h : (e >>= f).Sends m) :
    e.Sends m ∨ ∃ a, (f a).Sends m := by
  induction e with
  | done a => exact .inr ⟨a, h⟩
  | call m' next ih =>
    rcases h with rfl | ⟨reply, h⟩
    · exact .inl (.inl rfl)
    · exact (ih reply h).imp (fun h => .inr ⟨reply, h⟩) id

lemma sends_send {m' : HttpMessage} : (Exchange.send m').Sends m ↔ m = m' := by
  simp [Exchange.send, Sends]

end Exchange

/-- What a server makes of the object that a message is about, if the message carries a merge
patch. -/
def HttpMessage.mergedInto (m : HttpMessage) (stored : Json) : Json :=
  match m.contentType, m.body with
  | some "application/merge-patch+json", some patch => stored.mergePatch patch
  | _, _ => stored

/-- The message that merges a patch into the object at a path. -/
def HttpMessage.merging (path : String) (patch : Json) : HttpMessage where
  method := .patch
  path
  query := [("fieldManager", fieldManager)]
  contentType := some "application/merge-patch+json"
  body := some patch

/-- The message that removes the object at a path. -/
def HttpMessage.removing (path : String) : HttpMessage where
  method := .delete
  path
  contentType := some "application/json"
  body := some (.object [])

@[simp] lemma HttpMessage.mergedInto_merging (path : String) (patch stored : Json) :
    (HttpMessage.merging path patch).mergedInto stored = stored.mergePatch patch := rfl

/-- Whatever becomes of the path, it is the same patch that arrives. -/
lemma HttpMessage.mergedInto_of_sent? {m m' : HttpMessage} (sent : m.sent? = some m')
    (stored : Json) : m'.mergedInto stored = m.mergedInto stored := by
  obtain ⟨query, rfl⟩ := eq_of_sent? sent
  rfl

namespace Conversation

variable {α β : Type} {m : HttpMessage}

lemma sends_bind {c : Conversation α} {f : α → Conversation β}
    (quiet : ∀ a, ¬ (f a).run.Sends m) : (c >>= f).run.Sends m ↔ c.run.Sends m := by
  rw [ExceptT.run_bind]
  refine Exchange.sends_bind ?_
  intro r
  cases r with
  | ok a => exact quiet a
  | error e => simp [Exchange.Sends]

lemma sends_send {m' : HttpMessage} {ofJson? : Json → Option α} :
    (Conversation.send m' ofJson?).run.Sends m ↔ m'.sent? = some m := by
  unfold Conversation.send
  cases sent : m'.sent? with
  | some m'' =>
    have reads : ∀ reply : HttpReply,
        ¬ (pure (reply.read ofJson?) : Exchange (Except ApiFailure α)).Sends m := by
      simp [Exchange.Sends]
    simp only [ExceptT.run_mk, Exchange.sends_bind reads, Exchange.sends_send, Option.some.injEq,
      eq_comm]
  | none => simp [Exchange.Sends]

lemma sends_of_bind {c : Conversation α} {f : α → Conversation β}
    (h : (c >>= f).run.Sends m) : c.run.Sends m ∨ ∃ a, (f a).run.Sends m := by
  rw [ExceptT.run_bind] at h
  refine (Exchange.sends_of_bind h).imp id ?_
  rintro ⟨outcome, sent⟩
  cases outcome with
  | ok a => exact ⟨a, sent⟩
  | error e => exact absurd sent id

/-! ### What is said -/

lemma run_send {m' : HttpMessage} {ofJson? : Json → Option α} (sent : m.sent? = some m') :
    (Conversation.send m ofJson?).run = .call m' fun reply => .done (reply.read ofJson?) := by
  rw [Conversation.send, sent]
  rfl

lemma run_send_of_unsent {ofJson? : Json → Option α} (unsent : m.sent? = none) :
    (Conversation.send m ofJson?).run = .done (.error (.unsendable .invalidCharacter)) := by
  rw [Conversation.send, unsent]
  rfl

lemma run_named {name : String} (c : Conversation α) (named : name.isEmpty = false) :
    (Conversation.named name c).run = c.run := by
  rw [Conversation.named, named]
  rfl

lemma run_get? {name path : String} {ofJson? : Json → Option α} (named : name.isEmpty = false) :
    (Conversation.get? name path ofJson?).run =
      (Conversation.send { method := .get, path } ofJson?).run >>= fun result =>
        .done (orAbsent result) :=
  run_named _ named

lemma run_merge {name path : String} {patch : Json} {ofJson? : Json → Option α}
    (named : name.isEmpty = false) :
    (Conversation.merge name path patch ofJson?).run =
      (Conversation.send (.merging path patch) ofJson?).run :=
  run_named _ named

/-! ### What may be sent -/

/-- Reading an object sends nothing but a message to read. -/
lemma sends_get? {name path : String} {ofJson? : Json → Option α}
    (h : (Conversation.get? name path ofJson?).run.Sends m) : m.method = .get := by
  unfold Conversation.get? Conversation.named at h
  split at h
  · exact absurd h id
  · have asked := (Exchange.sends_bind (by simp [Exchange.Sends])).1 h
    exact HttpMessage.method_of_sent? (sends_send.1 asked)

/-- Listing objects sends nothing but a message to read. -/
lemma sends_list {path : String} {ofJson? : Json → Option α}
    (h : (Conversation.list path ofJson?).run.Sends m) : m.method = .get :=
  HttpMessage.method_of_sent? (sends_send.1 h)

/-- Applying an object sends nothing but a message about it. -/
lemma path_of_sends_apply {name path : String} {object : Json} {ofJson? : Json → Option α}
    (h : (Conversation.apply name path object ofJson?).run.Sends m) :
    m.path = Paths.reached path := by
  unfold Conversation.apply Conversation.named at h
  split at h
  · exact absurd h id
  · exact HttpMessage.path_of_sent? (sends_send.1 h)

/-- Removing an object sends one message, unless it has no name or its URL cannot be written. -/
lemma sends_delete {name path : String} {ofJson? : Json → Option α} :
    (Conversation.delete name path ofJson?).run.Sends m ↔
      name.isEmpty = false ∧ (HttpMessage.removing path).sent? = some m := by
  unfold Conversation.delete Conversation.named
  split
  next empty => simp [Exchange.Sends, empty]
  next named =>
    have quiet : ∀ result : Except ApiFailure Unit,
        ¬ (pure (orMissing result) : Exchange (Except ApiFailure Bool)).Sends m := fun _ => id
    simp only [ExceptT.run_mk, Exchange.sends_bind quiet, sends_send, HttpMessage.removing, named,
      true_and]

/-- The message that removes an object is about it. -/
lemma path_of_sends_delete {name path : String} {ofJson? : Json → Option α}
    (h : (Conversation.delete name path ofJson?).run.Sends m) : m.path = Paths.reached path :=
  HttpMessage.path_of_sent? (sends_delete.1 h).2

/-- Merging a patch sends one message, unless the object has no name or its URL cannot be
written. -/
lemma sends_merge {name path : String} {patch : Json} {ofJson? : Json → Option α} :
    (Conversation.merge name path patch ofJson?).run.Sends m ↔
      name.isEmpty = false ∧ (HttpMessage.merging path patch).sent? = some m := by
  unfold Conversation.merge Conversation.named
  split
  next empty => simp [Exchange.Sends, empty]
  next named => simp [sends_send, named, HttpMessage.merging]

/-- The message that merges a patch is about the object. -/
lemma path_of_sends_merge {name path : String} {patch : Json} {ofJson? : Json → Option α}
    (h : (Conversation.merge name path patch ofJson?).run.Sends m) :
    m.path = Paths.reached path :=
  HttpMessage.path_of_sent? (sends_merge.1 h).2

end Conversation

/-- Editing the finalizers of a grant reads the grant, and sends nothing else but a message about
it. -/
lemma sends_editFinalizers {key : ObjectKey} {edit : List String → Option (List String)}
    {m : HttpMessage} (h : (editFinalizers key edit).run.Sends m) :
    m.method = .get ∨ m.path = Paths.reached (Paths.grant key) := by
  rcases Conversation.sends_of_bind h with asked | ⟨found, h⟩
  · exact .inl (Conversation.sends_get? asked)
  cases found with
  | none => exact absurd h id
  | some grant =>
    simp only at h
    split at h
    · exact absurd h id
    · have merged := (Conversation.sends_bind (by simp [Exchange.Sends])).1 h
      exact .inr (Conversation.path_of_sends_merge merged)

/-- The status of a grant is carried by one message, a merge patch of its status alone. -/
theorem Request.sends_patchGrantStatus {key : ObjectKey} {s : GrantStatus} {m : HttpMessage} :
    (Request.patchGrantStatus key s).converse.run.Sends m ↔
      key.name.isEmpty = false ∧
        (HttpMessage.merging (Paths.grant key ++ "/status") (statusPatch s.toJson)).sent? =
          some m := by
  unfold Request.converse
  rw [Conversation.sends_bind (by simp [Exchange.Sends]), Conversation.sends_merge, statusPatch]

end CredentialOperator
