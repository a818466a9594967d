import CredentialOperator.Cluster.Program

/-! # A cluster in memory

A backend that holds the objects of a cluster in maps and keeps a journal of what programs do
to it.  Faults can be planted: a fault refuses the requests that it concerns, for good or a
number of times.  Requests are carried out as they are meant (`Objects.answer`).

Objects of other kinds are kept in one map, since the operator uses but one such kind.
-/

namespace CredentialOperator

/-- A map from the places of objects. -/
abbrev KeyMap (α : Type) : Type := Std.ExtTreeMap ObjectKey α ObjectKey.compare

/-- A planted fault. -/
structure Fault where
  /-- The sort of requests that it concerns. -/
  kind : RequestKind
  /-- What the requests are about; absent for anything. -/
  target : Option String := none
  /-- How many requests it will refuse; absent for all. -/
  times : Option Nat := none
  /-- The answer to a refused request. -/
  response : ErrorResponse
deriving DecidableEq, Repr

namespace Fault

/-- Whether a fault concerns a request. -/
def concerns (f : Fault) (r : Request) : Bool :=
  f.kind == r.kind && f.target.all (· == r.target)

/-- What is left of a fault after one use. -/
def spend (f : Fault) : List Fault :=
  match f.times with
  | none => [f]
  | some n => if n ≤ 1 then [] else [{ f with times := some (n - 1) }]

/-- The answer of the first fault that concerns a request, and what is left of the faults. -/
def refuse? (faults : List Fault) (r : Request) : Option ErrorResponse × List Fault :=
  match faults with
  | [] => (none, [])
  | f :: rest =>
    if f.concerns r then (some f.response, f.spend ++ rest)
    else
      let (response, rest) := refuse? rest r
      (response, f :: rest)

end Fault

/-- The objects of a cluster. -/
structure Objects where
  /-- The providers, by name. -/
  providers : Std.ExtTreeMap String Provider compare := ∅
  /-- The labels of the namespaces, by name. -/
  namespaces : Std.ExtTreeMap String StringMap compare := ∅
  /-- The grants. -/
  grants : KeyMap Grant := ∅
  /-- The Secrets. -/
  secrets : KeyMap Secret := ∅
  /-- The objects of other kinds. -/
  others : KeyMap DynamicObject := ∅

namespace Objects

/-- Changes a grant, if it is there. -/
def modifyGrant (o : Objects) (key : ObjectKey) (change : Grant → Grant) : Objects :=
  { o with grants := o.grants.modify key change }

/-- A grant with a finalizer added unless it is there. -/
def withFinalizer (finalizer : String) (g : Grant) : Grant :=
  if g.finalizers.contains finalizer then g
  else { g with metadata.finalizers := some (g.finalizers ++ [finalizer]) }

/-- A grant with every occurrence of a finalizer removed. -/
def withoutFinalizer (finalizer : String) (g : Grant) : Grant :=
  { g with metadata.finalizers := g.metadata.finalizers.map (·.filter (· ≠ finalizer)) }

/-- The form in which a Secret is stored: it keeps the time when it was stored first. -/
def storedSecret (now : Timestamp) (old : Option Secret) (new : Secret) : Secret :=
  { new with
    metadata.creationTimestamp :=
      match old with
      | some old => old.metadata.creationTimestamp
      | none => some now }

/-- The form in which an object is stored: it keeps its status. -/
def storedObject (old : Option DynamicObject) (new : DynamicObject) : DynamicObject :=
  match old.bind (·.get? "status") with
  | some status => { new with data := Json.setOrdered new.data "status" status }
  | none => new

/-- Carries out a request.

This is simpler than what a server makes of the messages that carry the requests.  A status that is
handed over takes the place of the one before, whereas the message that carries it merges it into
that one, so that there a field which the new status lacks stays as it was.  And the objects go by
the names in the requests, whereas a message reaches what its URL says. -/
def answer (now : Timestamp) (o : Objects) : (r : Request) → r.Answer × Objects
  | .getProvider name => (o.providers[name]?, o)
  | .getNamespaceLabels name => (o.namespaces[name]?, o)
  | .checkSecret key => (o.secrets[key]?, o)
  | .listGrantsOf provider => (o.grants.values.filter (·.spec.provider = provider), o)
  | .listGrants ns => (o.grants.values.filter (·.key.ns = ns), o)
  | .patchGrantStatus key status => ((), o.modifyGrant key ({ · with status := some status }))
  | .patchProviderStatus name status =>
    ((), { o with providers := o.providers.modify name ({ · with status := some status }) })
  | .addFinalizer key finalizer => ((), o.modifyGrant key (withFinalizer finalizer))
  | .removeFinalizer key finalizer => ((), o.modifyGrant key (withoutFinalizer finalizer))
  | .getSecret key => (o.secrets[key]?, o)
  | .applySecret key secret =>
    ((), { o with secrets := o.secrets.insert key (storedSecret now o.secrets[key]? secret) })
  | .deleteSecret key => (o.secrets.contains key, { o with secrets := o.secrets.erase key })
  | .getDynamic _ key => (o.others[key]?, o)
  | .applyDynamic _ key object =>
    let stored := storedObject o.others[key]? object
    (stored, { o with others := o.others.insert key stored })
  | .deleteDynamic _ key => (o.others.contains key, { o with others := o.others.erase key })

end Objects

/-- What programs did to a cluster, in order. -/
structure Journal where
  /-- The requests, also those that were refused. -/
  requests : List Request := []
  /-- The events. -/
  events : List Event := []
  /-- The measurements. -/
  measurements : List Measurement := []

/-- A cluster in memory. -/
structure Memory where
  /-- The time. -/
  now : Timestamp
  /-- The objects. -/
  objects : Objects := {}
  /-- The faults, of which the first that concerns a request counts. -/
  faults : List Fault := []
  /-- Whether events are kept. -/
  keepsEvents : Bool := true
  /-- What was done so far. -/
  journal : Journal := {}

namespace Memory

/-- Answers a request. -/
def answer (r : Request) (m : Memory) : r.Outcome × Memory :=
  let journal := { m.journal with requests := m.journal.requests ++ [r] }
  match Fault.refuse? m.faults r with
  | (some response, faults) => (.error (.refused response), { m with faults, journal })
  | (none, _) =>
    let (a, objects) := m.objects.answer m.now r
    (.ok a, { m with objects, journal })

/-- Keeps an event. -/
def publish (e : Event) (m : Memory) : Memory :=
  if m.keepsEvents then { m with journal.events := m.journal.events ++ [e] } else m

/-- Keeps a measurement. -/
def measure (e : Measurement) (m : Memory) : Memory :=
  { m with journal.measurements := m.journal.measurements ++ [e] }

/-- The cluster as a backend. -/
def backend : Backend Memory where
  answer
  publish
  measure

end Memory

end CredentialOperator
