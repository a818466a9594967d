import CredentialOperator.Event
import CredentialOperator.Http.Client
import CredentialOperator.Text.Quoted

/-! # Recording events

An event is stored as an object of its own.  One that repeats within six minutes is not stored
again: the first object is given a series that counts the repetitions.  The recorder remembers
what it stored, and a failure to store leaves no trace.
-/

namespace CredentialOperator

/-- The repetitions of an event. -/
structure EventSeries where
  /-- How often the event was published. -/
  count : Nat
  /-- When it was published last. -/
  lastObserved : Timestamp
deriving DecidableEq

/-- An event that was stored. -/
structure RecordedEvent where
  /-- The event as it was published first. -/
  event : Event
  /-- The name of the object. -/
  name : String
  /-- When it was published first. -/
  time : Timestamp
  /-- Its repetitions. -/
  series : Option EventSeries := none
deriving DecidableEq

namespace RecordedEvent

/-- The seconds after which an event is no longer remembered. -/
def memory : Int := 6 * 60

/-- When an event was published last. -/
def lastSeen (r : RecordedEvent) : Timestamp :=
  match r.series with
  | some series => series.lastObserved
  | none => r.time

/-- Whether an event is still remembered. -/
def isRecent (now : Timestamp) (r : RecordedEvent) : Bool :=
  match r.lastSeen.addSeconds? memory with
  | some limit => now < limit
  | none => true

/-- Whether an event repeats another; the text for people does not count. -/
def isRepeatedBy (r : RecordedEvent) (e : Event) : Bool :=
  r.event.type == e.type && r.event.reason == e.reason && r.event.action == e.action &&
    r.event.regarding == e.regarding

/-- The instant in the name of an object: nanoseconds while these fit into sixty-four bits, in
base sixteen. -/
def nameStamp (now : Timestamp) : String :=
  let nanos := now.toNanos
  let n := if -0x8000000000000000 ≤ nanos ∧ nanos < 0x8000000000000000 then nanos else now.seconds
  String.ofList (Text.hex (n % 0x10000000000000000).toNat)

/-- The object for an event that is published for the first time. -/
def first (now : Timestamp) (e : Event) : RecordedEvent where
  event := e
  name := e.regarding.name.getD fieldManager ++ "." ++ nameStamp now
  time := now

/-- An event that was published once more. -/
def again (now : Timestamp) (r : RecordedEvent) : RecordedEvent :=
  { r with
    series := some {
      count :=
        match r.series with
        | some series => series.count + 1
        | none => 2
      lastObserved := now } }

/-- An instant in the form of events: six digits of the fraction. -/
def timestampJson (t : Timestamp) : Json := .string (t.renderWith 6)

/-- The object of an event as a value. -/
def toJson (r : RecordedEvent) : Json :=
  .object <|
    Json.entry "action" (.string r.event.action) ++
    Json.entry "apiVersion" (.string "events.k8s.io/v1") ++
    Json.entry "eventTime" (timestampJson r.time) ++
    Json.entry "kind" (.string "Event") ++
    Json.entry "metadata" (.object <|
      Json.entry "name" (.string r.name) ++
      Json.optionalEntry "namespace" .string r.event.regarding.ns) ++
    Json.optionalEntry "note" .string r.event.note ++
    Json.entry "reason" (.string r.event.reason) ++
    Json.entry "regarding" r.event.regarding.toJson ++
    Json.entry "reportingController" (.string fieldManager) ++
    Json.entry "reportingInstance" (.string fieldManager) ++
    Json.optionalEntry "series" (fun s => .object [("count", Json.ofNat s.count),
      ("lastObservedTime", timestampJson s.lastObserved)]) r.series ++
    Json.entry "type" (.string r.event.type.text)

/-- Where the object of an event stands. -/
def path (r : RecordedEvent) : String := Paths.events (r.event.regarding.ns.getD "default")

/-- Stores the object of an event: a first one is new, a repeated one is merged into what is
there. -/
def store (r : RecordedEvent) : Conversation Unit :=
  match r.series with
  | none =>
    Conversation.send {
      method := .post
      path := r.path
      contentType := some "application/json"
      body := some r.toJson } ReplyForm.event?
  | some _ =>
    Conversation.send {
      method := .patch
      path := r.path ++ "/" ++ r.name
      contentType := some "application/merge-patch+json"
      body := some r.toJson } ReplyForm.event?

end RecordedEvent

/-- The events that are remembered. -/
abbrev EventRecorder := List RecordedEvent

namespace EventRecorder

/-- Publishes an event; the result is what is remembered afterwards. -/
def publish (now : Timestamp) (recorder : EventRecorder) (e : Event) : Exchange EventRecorder := do
  let recent := recorder.filter (RecordedEvent.isRecent now)
  let entry :=
    match recent.find? (·.isRepeatedBy e) with
    | some r => r.again now
    | none => .first now e
  match ← entry.store.run with
  | .ok () => pure (recent.filter (!·.isRepeatedBy e) ++ [entry])
  | .error _ => pure recent

end EventRecorder

end CredentialOperator
