import CredentialOperator.Cluster.Request
import CredentialOperator.Event
import CredentialOperator.Measurement

/-! # Programs over a cluster

What the operator does is written as a program: a tree that sends a request and goes on with
its outcome, publishes an event, takes a measurement, or ends with a result.  A program has
no effect by itself.  A backend gives one to it: it answers the requests and notes the events
and measurements in a state of its own.
-/

namespace CredentialOperator

/-- A program with a result of type `α`. -/
inductive Program (α : Type) where
  /-- Ends with a result. -/
  | done (a : α)
  /-- Sends a request and goes on with its outcome. -/
  | request (r : Request) (next : r.Outcome → Program α)
  /-- Publishes an event. -/
  | publish (e : Event) (next : Program α)
  /-- Takes a measurement. -/
  | measure (m : Measurement) (next : Program α)

namespace Program

/-- Goes on with the result of a program. -/
protected def bind {α β : Type} : Program α → (α → Program β) → Program β
  | .done a, f => f a
  | .request r next, f => .request r fun o => (next o).bind f
  | .publish e next, f => .publish e (next.bind f)
  | .measure m next, f => .measure m (next.bind f)

instance : Monad Program where
  pure := .done
  bind := Program.bind

@[simp] theorem pure_eq {α : Type} (a : α) : (pure a : Program α) = .done a := rfl

@[simp] theorem done_bind {α β : Type} (a : α) (f : α → Program β) :
    (Program.done a >>= f) = f a := rfl

@[simp] theorem request_bind {α β : Type} (r : Request) (next : r.Outcome → Program α)
    (f : α → Program β) :
    (Program.request r next >>= f) = .request r fun o => next o >>= f := rfl

@[simp] theorem publish_bind {α β : Type} (e : Event) (next : Program α) (f : α → Program β) :
    (Program.publish e next >>= f) = .publish e (next >>= f) := rfl

@[simp] theorem measure_bind {α β : Type} (m : Measurement) (next : Program α)
    (f : α → Program β) :
    (Program.measure m next >>= f) = .measure m (next >>= f) := rfl

theorem bind_done {α : Type} (p : Program α) : p >>= Program.done = p := by
  induction p with
  | done a => rfl
  | request r next ih => simp [ih]
  | publish e next ih => simp [ih]
  | measure m next ih => simp [ih]

theorem bind_assoc {α β γ : Type} (p : Program α) (f : α → Program β) (g : β → Program γ) :
    (p >>= f) >>= g = p >>= fun a => f a >>= g := by
  induction p with
  | done a => rfl
  | request r next ih => simp [ih]
  | publish e next ih => simp [ih]
  | measure m next ih => simp [ih]

instance : LawfulMonad Program :=
  LawfulMonad.mk' Program
    (fun p => bind_done p)
    (fun a f => done_bind a f)
    (fun p f g => bind_assoc p f g)

/-- Sends a request. -/
def send (r : Request) : Program r.Outcome := .request r .done

/-- Publishes an event. -/
def emit (e : Event) : Program Unit := .publish e (.done ())

/-- Takes a measurement. -/
def note (m : Measurement) : Program Unit := .measure m (.done ())

end Program

/-- A backend: how requests are answered, events published and measurements noted in a state
of type `σ`. -/
structure Backend (σ : Type) where
  /-- Answers a request. -/
  answer (r : Request) (s : σ) : r.Outcome × σ
  /-- Publishes an event. -/
  publish (e : Event) (s : σ) : σ
  /-- Notes a measurement. -/
  measure (m : Measurement) (s : σ) : σ

/-- The result and final state of a program with a backend. -/
def Program.run {α σ : Type} (b : Backend σ) : Program α → σ → α × σ
  | .done a, s => (a, s)
  | .request r next, s =>
    let (outcome, s) := b.answer r s
    (next outcome).run b s
  | .publish e next, s => next.run b (b.publish e s)
  | .measure m next, s => next.run b (b.measure m s)

namespace Program

variable {α β σ : Type} {b : Backend σ}

@[simp] theorem run_done (a : α) (s : σ) : (Program.done a).run b s = (a, s) := rfl

@[simp] theorem run_publish (e : Event) (next : Program α) (s : σ) :
    (Program.publish e next).run b s = next.run b (b.publish e s) := rfl

@[simp] theorem run_measure (m : Measurement) (next : Program α) (s : σ) :
    (Program.measure m next).run b s = next.run b (b.measure m s) := rfl

theorem run_request (r : Request) (next : r.Outcome → Program α) (s : σ) :
    (Program.request r next).run b s = (next (b.answer r s).1).run b (b.answer r s).2 := rfl

theorem run_bind (p : Program α) (f : α → Program β) (s : σ) :
    (p >>= f).run b s = (f (p.run b s).1).run b (p.run b s).2 := by
  induction p generalizing s with
  | done a => rfl
  | request r next ih => simp [run_request, ih]
  | publish e next ih => simp [ih]
  | measure m next ih => simp [ih]

end Program

end CredentialOperator
