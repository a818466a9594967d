import CredentialOperator.Proofs.Http.Messages
import CredentialOperator.Proofs.Cluster.Runs

/-!
# What is said in exchanges

An exchange leaves open how the server replies.  `e.Talks talk a` says that the exchange can go
in one way, the messages with their replies in order, and end with `a`; nothing is assumed
about the replies.  A deed is `CarriedBy` such a talk if its outcome is what the conversation
about its request made of it.

The lemmas take the talk of a conversation apart along its steps, and say for which replies an
object counts as removed (`Conversation.talks_delete`).
-/

namespace CredentialOperator

/-- What was said in an exchange: the messages, each with its reply. -/
abbrev Talk := List (HttpMessage × HttpReply)

/-- `e.Talks talk a` says that `e` can have the talk and end with `a`. -/
inductive Exchange.Talks {α : Type} : Exchange α → Talk → α → Prop where
  /-- Nothing is left to be said. -/
  | done (a : α) : Talks (.done a) [] a
  /-- A message meets some reply. -/
  | call {m : HttpMessage} {next : HttpReply → Exchange α} {talk : Talk} {a : α}
      (reply : HttpReply) (rest : Talks (next reply) talk a) :
      Talks (.call m next) ((m, reply) :: talk) a

namespace Exchange

variable {α β : Type} {talk : Talk} {a : α}

@[simp] lemma talks_done {b : α} : (Exchange.done b).Talks talk a ↔ talk = [] ∧ a = b := by
  constructor
  · rintro ⟨⟩
    exact ⟨rfl, rfl⟩
  · rintro ⟨rfl, rfl⟩
    exact .done a

lemma talks_call {m : HttpMessage} {next : HttpReply → Exchange α} :
    (Exchange.call m next).Talks talk a ↔
      ∃ reply talk', talk = (m, reply) :: talk' ∧ (next reply).Talks talk' a := by
  constructor
  · intro h
    cases h with
    | call reply rest => exact ⟨reply, _, rfl, rest⟩
  · rintro ⟨reply, talk', rfl, rest⟩
    exact .call reply rest

/-- In a sequence the first exchange is had before the second. -/
lemma talks_bind {e : Exchange α} {f : α → Exchange β} {b : β} :
    (e >>= f).Talks talk b ↔
      ∃ talk₁ a talk₂, e.Talks talk₁ a ∧ (f a).Talks talk₂ b ∧ talk = talk₁ ++ talk₂ := by
  induction e generalizing talk with
  | done a =>
    simp only [done_bind, talks_done]
    constructor
    · intro h
      exact ⟨[], a, talk, ⟨rfl, rfl⟩, h, rfl⟩
    · rintro ⟨_, _, talk₂, ⟨rfl, rfl⟩, h, rfl⟩
      exact h
  | call m next ih =>
    simp only [call_bind, talks_call, ih]
    constructor
    · rintro ⟨reply, _, rfl, talk₁, a, talk₂, h₁, h₂, rfl⟩
      exact ⟨(m, reply) :: talk₁, a, talk₂, ⟨reply, talk₁, rfl, h₁⟩, h₂, rfl⟩
    · rintro ⟨_, a, talk₂, ⟨reply, talk₁, rfl, h₁⟩, h₂, rfl⟩
      exact ⟨reply, talk₁ ++ talk₂, rfl, talk₁, a, talk₂, h₁, h₂, rfl⟩

lemma talks_send {m : HttpMessage} {reply : HttpReply} :
    (Exchange.send m).Talks talk reply ↔ talk = [(m, reply)] := by
  simp only [send, talks_call, talks_done]
  constructor
  · rintro ⟨_, _, rfl, rfl, rfl⟩
    rfl
  · rintro rfl
    exact ⟨reply, [], rfl, rfl, rfl⟩

end Exchange

namespace Conversation

variable {α : Type} {talk : Talk} {ofJson? : Json → Option α} {name path : String}

/-- A message is sent, and its reply read, if its URL can be written. -/
lemma talks_send {m : HttpMessage} {o : Except ApiFailure α} :
    (Conversation.send m ofJson?).run.Talks talk o ↔
      (m.sent? = none ∧ talk = [] ∧ o = .error (.unsendable .invalidCharacter)) ∨
      (∃ m' reply, m.sent? = some m' ∧ talk = [(m', reply)] ∧ o = reply.read ofJson?) := by
  unfold Conversation.send
  cases sent : m.sent? with
  | none => simp [ExceptT.run_throw]
  | some m' =>
    simp only [ExceptT.run_mk, Exchange.talks_bind, Exchange.talks_send, Exchange.pure_eq,
      Exchange.talks_done, reduceCtorEq, false_and, false_or, Option.some.injEq]
    constructor
    · rintro ⟨_, reply, _, rfl, ⟨rfl, rfl⟩, rfl⟩
      exact ⟨m', reply, rfl, rfl, rfl⟩
    · rintro ⟨_, reply, rfl, rfl, rfl⟩
      exact ⟨_, reply, [], rfl, ⟨rfl, rfl⟩, rfl⟩

/-- Nothing is said about an object without a name. -/
lemma talks_named {c : Conversation α} {o : Except ApiFailure α} :
    (Conversation.named name c).run.Talks talk o ↔
      (name.isEmpty = true ∧ talk = [] ∧ o = .error (.unsendable .emptyName)) ∨
      (name.isEmpty = false ∧ c.run.Talks talk o) := by
  unfold Conversation.named
  split
  next empty => simp [empty, ExceptT.run_throw]
  next named => simp [named]

/-- A conversation that comes to nothing but a change of what was read. -/
lemma talks_mapped {β : Type} {m : HttpMessage} {change : Except ApiFailure α → Except ApiFailure β}
    {o : Except ApiFailure β} :
    (ExceptT.mk (do
      let result ← (Conversation.send m ofJson?).run
      pure (change result)) : Conversation β).run.Talks talk o ↔
      (m.sent? = none ∧ talk = [] ∧ o = change (.error (.unsendable .invalidCharacter))) ∨
      (∃ m' reply, m.sent? = some m' ∧ talk = [(m', reply)] ∧
        o = change (reply.read ofJson?)) := by
  simp only [ExceptT.run_mk, Exchange.talks_bind, talks_send, Exchange.pure_eq,
    Exchange.talks_done]
  constructor
  · rintro ⟨_, _, _, ⟨unsent, rfl, rfl⟩ | ⟨m', reply, sent, rfl, rfl⟩, ⟨rfl, rfl⟩, rfl⟩
    · exact .inl ⟨unsent, rfl, rfl⟩
    · exact .inr ⟨m', reply, sent, rfl, rfl⟩
  · rintro (⟨unsent, rfl, rfl⟩ | ⟨m', reply, sent, rfl, rfl⟩)
    · exact ⟨_, _, [], .inl ⟨unsent, rfl, rfl⟩, ⟨rfl, rfl⟩, rfl⟩
    · exact ⟨_, _, [], .inr ⟨m', reply, sent, rfl, rfl⟩, ⟨rfl, rfl⟩, by simp⟩

end Conversation

/-- A reply tells that an object is gone: the server has removed it, or says by its code that it
is not there. -/
def HttpReply.TellsGone {α : Type} (ofJson? : Json → Option α) (reply : HttpReply) : Prop :=
  (reply.isRefusal = false ∧ reply.read (ReplyForm.removed? ofJson?) = .ok ()) ∨
    (reply.isRefusal = true ∧ reply.refusal.code = 404)

namespace Conversation

variable {α : Type} {talk : Talk} {ofJson? : Json → Option α} {name path : String}

/-- An object counts as removed exactly if the server tells that it is gone. -/
lemma talks_delete {found : Bool} :
    (Conversation.delete name path ofJson?).run.Talks talk (.ok found) ↔
      name.isEmpty = false ∧ ∃ m reply, (HttpMessage.removing path).sent? = some m ∧
        talk = [(m, reply)] ∧ reply.TellsGone ofJson? ∧ found = !reply.isRefusal := by
  have gone : ∀ reply : HttpReply,
      Except.ok found = orMissing (reply.read (ReplyForm.removed? ofJson?)) ↔
        reply.TellsGone ofJson? ∧ found = !reply.isRefusal := by
    intro reply
    unfold HttpReply.TellsGone
    cases refused : reply.isRefusal with
    | true =>
      have read : reply.read (ReplyForm.removed? ofJson?) = .error (.refused reply.refusal) := by
        simp [HttpReply.read, refused]
      by_cases code : reply.refusal.code = 404 <;>
        simp [read, orMissing, ApiFailure.isNotFound, code]
    | false =>
      cases read : reply.read (ReplyForm.removed? ofJson?) with
      | ok u => simp [orMissing]
      | error e =>
        -- a reply that is no refusal is unreadable at worst, which is no word on the object
        have unreadable : e = .unreadable := by
          unfold HttpReply.read at read
          rw [refused] at read
          simp only [Bool.false_eq_true, if_false] at read
          split at read
          · cases read
          · exact (Except.error.inj read).symm
        subst unreadable
        simp [orMissing, ApiFailure.isNotFound]
  unfold Conversation.delete
  simp only [talks_named, talks_mapped, gone]
  constructor
  · rintro (⟨-, -, absurd_ok⟩ | ⟨named, ⟨-, -, absurd_ok⟩ | ⟨m, reply, sent, rfl, gone⟩⟩)
    · cases absurd_ok
    · simp [orMissing, ApiFailure.isNotFound] at absurd_ok
    · exact ⟨named, m, reply, sent, rfl, gone⟩
  · rintro ⟨named, m, reply, sent, rfl, gone⟩
    exact .inr ⟨named, .inr ⟨m, reply, sent, rfl, gone⟩⟩

end Conversation

/-- The request of a deed was carried to a server, where the talk about it led to the outcome
that it met. -/
def Deed.CarriedBy (talk : Talk) : Deed → Prop
  | .request r o => r.converse.run.Talks talk o
  | _ => False

end CredentialOperator
