import CredentialOperator.Cluster.Program
import CredentialOperator.Http.EventRecorder

/-! # The cluster behind a server

A backend that carries the requests and events of programs to a server.
-/

namespace CredentialOperator

/-- The state of a client, with a server in a state of type `σ`. -/
structure HttpClient (σ : Type) where
  /-- The time. -/
  now : Timestamp
  /-- The events that are remembered. -/
  recorder : EventRecorder := []
  /-- The measurements taken. -/
  measurements : List Measurement := []
  /-- The server. -/
  server : σ

namespace HttpClient

variable {α σ : Type} (serve : HttpMessage → σ → HttpReply × σ)

/-- Has an exchange with the server. -/
def perform (e : Exchange α) (c : HttpClient σ) : α × HttpClient σ :=
  let (a, server) := e.run serve c.server
  (a, { c with server })

/-- Publishes an event. -/
def publish (e : Event) (c : HttpClient σ) : HttpClient σ :=
  let (recorder, c) := c.perform serve (c.recorder.publish c.now e)
  { c with recorder }

/-- A server as a backend. -/
def backend : Backend (HttpClient σ) where
  answer r c := c.perform serve r.converse.run
  publish e c := c.publish serve e
  measure m c := { c with measurements := c.measurements ++ [m] }

end HttpClient

end CredentialOperator
