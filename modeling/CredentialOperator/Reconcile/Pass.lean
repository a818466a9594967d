import CredentialOperator.Cluster.Program
import CredentialOperator.Time.Interval

/-! # Passes

A pass looks at one object, does what is to be done about it, and says when it wants to be
called again.  It may fail at any request; every pass is measured, whatever its end.
-/

namespace CredentialOperator

/-- When an object is to be looked at again. -/
inductive Action where
  /-- When it changes. -/
  | awaitChange
  /-- When it changes, and after some time in any case. -/
  | requeue (after : Delay)
deriving DecidableEq, Repr

namespace Action

/-- To look again after some seconds. -/
def requeueSeconds (n : Nat) : Action := .requeue (.ofSeconds n)

/-- When to try again after a pass that failed. -/
def afterFailure : Action := requeueSeconds 30

end Action

/-- A program that ends with a result or with the failure of a pass. -/
abbrev Pass (α : Type) : Type := ExceptT ReconcileFailure Program α

namespace Pass

/-- Sends a request whose failure ends the pass. -/
def send (r : Request) : Pass r.Answer :=
  ExceptT.mk do
    match ← Program.send r with
    | .ok a => pure (.ok a)
    | .error cause => pure (.error (.ofApi cause))

/-- Publishes an event. -/
def emit (e : Event) : Pass Unit := ExceptT.lift (Program.emit e)

/-- Takes a measurement. -/
def note (m : Measurement) : Pass Unit := ExceptT.lift (Program.note m)

/-- Measures how a pass ended. -/
def noteEnd {α : Type} (controller : Controller) : Except ReconcileFailure α → Program Unit
  | .ok _ => Program.note (.pass controller true)
  | .error e => do
    Program.note (.pass controller false)
    Program.note (.passError controller e.kind)

/-- A pass that is measured. -/
def measured {α : Type} (controller : Controller) (pass : Pass α) : Pass α :=
  ExceptT.mk do
    let result ← pass.run
    noteEnd controller result
    pure result

end Pass

end CredentialOperator
