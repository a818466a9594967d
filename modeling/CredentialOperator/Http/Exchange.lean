import CredentialOperator.Json.Writer

/-! # Exchanges over HTTP

What is said to a server is an exchange: a tree that sends a message, goes on with the reply,
and ends with a result.  A server is a function of the message and of a state of its own.
-/

namespace CredentialOperator

/-- The methods used. -/
inductive HttpMethod where
  /-- Reading. -/
  | get
  /-- Storing a new object. -/
  | post
  /-- Changing an object. -/
  | patch
  /-- Removing an object. -/
  | delete
deriving DecidableEq, Repr

/-- The text of a method. -/
def HttpMethod.text : HttpMethod → String
  | .get => "GET"
  | .post => "POST"
  | .patch => "PATCH"
  | .delete => "DELETE"

/-- A message to a server. -/
structure HttpMessage where
  /-- The method. -/
  method : HttpMethod
  /-- The path. -/
  path : String
  /-- The parameters of the query. -/
  query : List (String × String) := []
  /-- The type of the body. -/
  contentType : Option String := none
  /-- The body. -/
  body : Option Json := none
deriving DecidableEq, Repr

/-- What a message asks for, in one line. -/
def HttpMessage.line (m : HttpMessage) : String := m.method.text ++ " " ++ m.path

/-- The reply of a server. -/
structure HttpReply where
  /-- The status code. -/
  status : Nat
  /-- The body. -/
  body : String
deriving DecidableEq, Repr

/-- An exchange with a result of type `α`. -/
inductive Exchange (α : Type) where
  /-- Ends with a result. -/
  | done (a : α)
  /-- Sends a message and goes on with the reply. -/
  | call (m : HttpMessage) (next : HttpReply → Exchange α)

namespace Exchange

/-- Goes on with the result of an exchange. -/
protected def bind {α β : Type} : Exchange α → (α → Exchange β) → Exchange β
  | .done a, f => f a
  | .call m next, f => .call m fun r => (next r).bind f

instance : Monad Exchange where
  pure := .done
  bind := Exchange.bind

@[simp] theorem pure_eq {α : Type} (a : α) : (pure a : Exchange α) = .done a := rfl

@[simp] theorem done_bind {α β : Type} (a : α) (f : α → Exchange β) :
    (Exchange.done a >>= f) = f a := rfl

@[simp] theorem call_bind {α β : Type} (m : HttpMessage) (next : HttpReply → Exchange α)
    (f : α → Exchange β) :
    (Exchange.call m next >>= f) = .call m fun r => next r >>= f := rfl

theorem bind_done {α : Type} (e : Exchange α) : e >>= Exchange.done = e := by
  induction e with
  | done a => rfl
  | call m next ih => simp [ih]

theorem bind_assoc {α β γ : Type} (e : Exchange α) (f : α → Exchange β) (g : β → Exchange γ) :
    (e >>= f) >>= g = e >>= fun a => f a >>= g := by
  induction e with
  | done a => rfl
  | call m next ih => simp [ih]

instance : LawfulMonad Exchange :=
  LawfulMonad.mk' Exchange
    (fun e => bind_done e)
    (fun a f => done_bind a f)
    (fun e f g => bind_assoc e f g)

/-- Sends a message. -/
def send (m : HttpMessage) : Exchange HttpReply := .call m .done

/-- The result of an exchange with a server, and the state in which it leaves the server. -/
def run {α σ : Type} (serve : HttpMessage → σ → HttpReply × σ) : Exchange α → σ → α × σ
  | .done a, s => (a, s)
  | .call m next, s =>
    let (reply, s) := serve m s
    (next reply).run serve s

theorem run_bind {α β σ : Type} (serve : HttpMessage → σ → HttpReply × σ) (e : Exchange α)
    (f : α → Exchange β) (s : σ) :
    (e >>= f).run serve s = (f (e.run serve s).1).run serve (e.run serve s).2 := by
  induction e generalizing s with
  | done a => rfl
  | call m next ih => simp [run, ih]

end Exchange

end CredentialOperator
