import CredentialOperator.Provision.Artifact
import CredentialOperator.Reconcile.Pass
import Mathlib.Tactic.Common

/-!
# Runs of programs

A program leaves open how its requests are answered.  A run of it is one way in which it can
go: the list of its deeds, each request with the outcome it met, and the result at the end.
Nothing is assumed about the outcomes here, so that what holds of every run holds whatever the
cluster contains and whichever requests fail.

The lemmas below take a run apart along the program: `Program.runs_bind` for a sequence, the
lemmas on `ExceptT` for programs that may end early, and those on `Pass` for its four steps.
`Program.Only` says of a program that all its deeds, in any run, are of some sort; it is shown
along the program too.
-/

namespace CredentialOperator

/-- Something that a program does. -/
inductive Deed where
  /-- It sends a request and learns the outcome. -/
  | request (r : Request) (outcome : r.Outcome)
  /-- It publishes an event. -/
  | publish (e : Event)
  /-- It takes a measurement. -/
  | measure (m : Measurement)

/-- `p.Runs ds a` says that `p` can do `ds`, in this order, and end with `a`. -/
inductive Program.Runs {α : Type} : Program α → List Deed → α → Prop where
  /-- Nothing is left to be done. -/
  | done (a : α) : Runs (.done a) [] a
  /-- A request meets some outcome. -/
  | request {r : Request} {next : r.Outcome → Program α} {ds : List Deed} {a : α}
      (o : r.Outcome) (rest : Runs (next o) ds a) : Runs (.request r next) (.request r o :: ds) a
  /-- An event is published. -/
  | publish {e : Event} {next : Program α} {ds : List Deed} {a : α}
      (rest : Runs next ds a) : Runs (.publish e next) (.publish e :: ds) a
  /-- A measurement is taken. -/
  | measure {m : Measurement} {next : Program α} {ds : List Deed} {a : α}
      (rest : Runs next ds a) : Runs (.measure m next) (.measure m :: ds) a

namespace Program

variable {α β : Type} {ds : List Deed} {a : α}

@[simp] lemma runs_done {b : α} : (Program.done b).Runs ds a ↔ ds = [] ∧ a = b := by
  constructor
  · rintro ⟨⟩
    exact ⟨rfl, rfl⟩
  · rintro ⟨rfl, rfl⟩
    exact .done a

lemma runs_request {r : Request} {next : r.Outcome → Program α} :
    (Program.request r next).Runs ds a ↔
      ∃ o ds', ds = .request r o :: ds' ∧ (next o).Runs ds' a := by
  constructor
  · intro h
    cases h with
    | request o rest => exact ⟨o, _, rfl, rest⟩
  · rintro ⟨o, ds', rfl, rest⟩
    exact .request o rest

lemma runs_publish {e : Event} {next : Program α} :
    (Program.publish e next).Runs ds a ↔ ∃ ds', ds = .publish e :: ds' ∧ next.Runs ds' a := by
  constructor
  · intro h
    cases h with
    | publish rest => exact ⟨_, rfl, rest⟩
  · rintro ⟨ds', rfl, rest⟩
    exact .publish rest

lemma runs_measure {m : Measurement} {next : Program α} :
    (Program.measure m next).Runs ds a ↔ ∃ ds', ds = .measure m :: ds' ∧ next.Runs ds' a := by
  constructor
  · intro h
    cases h with
    | measure rest => exact ⟨_, rfl, rest⟩
  · rintro ⟨ds', rfl, rest⟩
    exact .measure rest

/-- A run of a sequence is a run of the first program followed by one of the second. -/
lemma runs_bind {p : Program α} {f : α → Program β} {b : β} :
    (p >>= f).Runs ds b ↔ ∃ ds₁ a ds₂, p.Runs ds₁ a ∧ (f a).Runs ds₂ b ∧ ds = ds₁ ++ ds₂ := by
  -- along the first program: its first deed stands in front of either run
  induction p generalizing ds with
  | done a =>
    simp only [done_bind, runs_done]
    constructor
    · intro h
      exact ⟨[], a, ds, ⟨rfl, rfl⟩, h, rfl⟩
    · rintro ⟨_, _, ds₂, ⟨rfl, rfl⟩, h, rfl⟩
      exact h
  | request r next ih =>
    simp only [request_bind, runs_request, ih]
    constructor
    · rintro ⟨o, _, rfl, ds₁, a, ds₂, h₁, h₂, rfl⟩
      exact ⟨.request r o :: ds₁, a, ds₂, ⟨o, ds₁, rfl, h₁⟩, h₂, rfl⟩
    · rintro ⟨_, a, ds₂, ⟨o, ds₁, rfl, h₁⟩, h₂, rfl⟩
      exact ⟨o, ds₁ ++ ds₂, rfl, ds₁, a, ds₂, h₁, h₂, rfl⟩
  | publish e next ih =>
    simp only [publish_bind, runs_publish, ih]
    constructor
    · rintro ⟨_, rfl, ds₁, a, ds₂, h₁, h₂, rfl⟩
      exact ⟨.publish e :: ds₁, a, ds₂, ⟨ds₁, rfl, h₁⟩, h₂, rfl⟩
    · rintro ⟨_, a, ds₂, ⟨ds₁, rfl, h₁⟩, h₂, rfl⟩
      exact ⟨ds₁ ++ ds₂, rfl, ds₁, a, ds₂, h₁, h₂, rfl⟩
  | measure m next ih =>
    simp only [measure_bind, runs_measure, ih]
    constructor
    · rintro ⟨_, rfl, ds₁, a, ds₂, h₁, h₂, rfl⟩
      exact ⟨.measure m :: ds₁, a, ds₂, ⟨ds₁, rfl, h₁⟩, h₂, rfl⟩
    · rintro ⟨_, a, ds₂, ⟨ds₁, rfl, h₁⟩, h₂, rfl⟩
      exact ⟨ds₁ ++ ds₂, rfl, ds₁, a, ds₂, h₁, h₂, rfl⟩

lemma runs_send {r : Request} {o : r.Outcome} :
    (Program.send r).Runs ds o ↔ ds = [.request r o] := by
  simp only [send, runs_request, runs_done]
  constructor
  · rintro ⟨_, _, rfl, rfl, rfl⟩
    rfl
  · rintro rfl
    exact ⟨o, [], rfl, rfl, rfl⟩

lemma runs_note {m : Measurement} : (Program.note m).Runs ds () ↔ ds = [.measure m] := by
  simp [note, runs_measure]

lemma runs_emit {e : Event} : (Program.emit e).Runs ds () ↔ ds = [.publish e] := by
  simp [emit, runs_publish]

end Program

/-! ## Programs that may end early -/

section Early

variable {ε α β : Type} {ds : List Deed}

@[simp] lemma runs_pure {a : α} {r : Except ε α} :
    (pure a : ExceptT ε Program α).run.Runs ds r ↔ ds = [] ∧ r = .ok a := by
  simp [ExceptT.run_pure]

@[simp] lemma runs_throw {e : ε} {r : Except ε α} :
    (throw e : ExceptT ε Program α).run.Runs ds r ↔ ds = [] ∧ r = .error e := by
  simp [ExceptT.run_throw]

@[simp] lemma runs_mk {p : Program (Except ε α)} {r : Except ε α} :
    (ExceptT.mk p).run.Runs ds r ↔ p.Runs ds r := Iff.rfl

/-- A sequence ends with its first failure, or goes on with the result. -/
lemma runs_run_bind {x : ExceptT ε Program α} {f : α → ExceptT ε Program β} {r : Except ε β} :
    (x >>= f).run.Runs ds r ↔
      (∃ e, x.run.Runs ds (.error e) ∧ r = .error e) ∨
        ∃ ds₁ a ds₂, x.run.Runs ds₁ (.ok a) ∧ (f a).run.Runs ds₂ r ∧ ds = ds₁ ++ ds₂ := by
  rw [ExceptT.run_bind, Program.runs_bind]
  constructor
  · rintro ⟨ds₁, o, ds₂, h₁, h₂, rfl⟩
    cases o with
    | ok a => exact .inr ⟨ds₁, a, ds₂, h₁, h₂, rfl⟩
    | error e =>
      -- after a failure nothing of `f` is done
      obtain ⟨rfl, rfl⟩ := Program.runs_done.1 h₂
      exact .inl ⟨e, by simpa using h₁, rfl⟩
  · rintro (⟨e, h, rfl⟩ | ⟨ds₁, a, ds₂, h₁, h₂, rfl⟩)
    · exact ⟨ds, .error e, [], h, .done _, by simp⟩
    · exact ⟨ds₁, .ok a, ds₂, h₁, h₂, rfl⟩

/-- A program that cannot fail goes on with its result in any case. -/
lemma runs_lift_bind {p : Program α} {f : α → ExceptT ε Program β} {r : Except ε β} :
    (ExceptT.lift p >>= f).run.Runs ds r ↔
      ∃ ds₁ a ds₂, p.Runs ds₁ a ∧ (f a).run.Runs ds₂ r ∧ ds = ds₁ ++ ds₂ := by
  simp only [ExceptT.run_bind_lift, Program.runs_bind]

/-- Sending a request whose failure ends the program, told in the way that `wrap` says: the
passes and the strategies of provisioning differ in this alone. -/
lemma runs_ask_bind {q : Request} {wrap : ApiFailure → ε} {x : ExceptT ε Program q.Answer}
    (hx : x = ExceptT.mk (Program.send q >>= fun
      | .ok a => pure (.ok a)
      | .error cause => pure (.error (wrap cause))))
    {f : q.Answer → ExceptT ε Program β} {r : Except ε β} :
    (x >>= f).run.Runs ds r ↔
      (∃ e, ds = [.request q (.error e)] ∧ r = .error (wrap e)) ∨
        ∃ a ds', ds = .request q (.ok a) :: ds' ∧ (f a).run.Runs ds' r := by
  subst hx
  simp only [ExceptT.run_bind, ExceptT.run_mk, bind_assoc, Program.runs_bind]
  constructor
  · rintro ⟨ds₁, o, _, h₁, ⟨ds₂, r', ds₃, h₂, h₃, rfl⟩, rfl⟩
    obtain rfl := Program.runs_send.1 h₁
    cases o with
    | ok a =>
      obtain ⟨rfl, rfl⟩ := Program.runs_done.1 h₂
      exact .inr ⟨a, ds₃, rfl, h₃⟩
    | error e =>
      obtain ⟨rfl, rfl⟩ := Program.runs_done.1 h₂
      obtain ⟨rfl, rfl⟩ := Program.runs_done.1 h₃
      exact .inl ⟨e, rfl, rfl⟩
  · rintro (⟨e, rfl, rfl⟩ | ⟨a, ds', rfl, h⟩)
    · exact ⟨_, .error e, [], Program.runs_send.2 rfl, ⟨[], _, [], .done _, .done _, rfl⟩, rfl⟩
    · exact ⟨_, .ok a, ds', Program.runs_send.2 rfl, ⟨[], _, ds', .done _, h, rfl⟩, rfl⟩

end Early

namespace Pass

variable {α β : Type} {ds : List Deed}

/-- A request that fails ends the pass. -/
lemma runs_send_bind {q : Request} {f : q.Answer → Pass β} {r : Except ReconcileFailure β} :
    (Pass.send q >>= f).run.Runs ds r ↔
      (∃ e, ds = [.request q (.error e)] ∧ r = .error (.ofApi e)) ∨
        ∃ a ds', ds = .request q (.ok a) :: ds' ∧ (f a).run.Runs ds' r :=
  runs_ask_bind rfl

lemma runs_note_bind {m : Measurement} {f : Unit → Pass β} {r : Except ReconcileFailure β} :
    (Pass.note m >>= f).run.Runs ds r ↔ ∃ ds', ds = .measure m :: ds' ∧ (f ()).run.Runs ds' r := by
  simp only [Pass.note, runs_lift_bind]
  constructor
  · rintro ⟨_, ⟨⟩, ds₂, h₁, h₂, rfl⟩
    exact ⟨ds₂, by rw [Program.runs_note.1 h₁]; rfl, h₂⟩
  · rintro ⟨ds', rfl, h⟩
    exact ⟨_, (), ds', Program.runs_note.2 rfl, h, rfl⟩

lemma runs_emit_bind {e : Event} {f : Unit → Pass β} {r : Except ReconcileFailure β} :
    (Pass.emit e >>= f).run.Runs ds r ↔ ∃ ds', ds = .publish e :: ds' ∧ (f ()).run.Runs ds' r := by
  simp only [Pass.emit, runs_lift_bind]
  constructor
  · rintro ⟨_, ⟨⟩, ds₂, h₁, h₂, rfl⟩
    exact ⟨ds₂, by rw [Program.runs_emit.1 h₁]; rfl, h₂⟩
  · rintro ⟨ds', rfl, h⟩
    exact ⟨_, (), ds', Program.runs_emit.2 rfl, h, rfl⟩

/-- What is measured at the end of a pass. -/
def endDeeds (controller : Controller) : Except ReconcileFailure α → List Deed
  | .ok _ => [.measure (.pass controller true)]
  | .error e => [.measure (.pass controller false), .measure (.passError controller e.kind)]

/-- A pass that is measured does what it does otherwise, and measures at the end. -/
lemma runs_measured {controller : Controller} {p : Pass α} {r : Except ReconcileFailure α} :
    (Pass.measured controller p).run.Runs ds r ↔
      ∃ ds', p.run.Runs ds' r ∧ ds = ds' ++ endDeeds controller r := by
  -- the measurements depend on nothing but how the pass ended
  have noted : ∀ {ds : List Deed},
      (noteEnd controller r).Runs ds () ↔ ds = endDeeds controller r := by
    intro ds
    cases r with
    | ok a => exact Program.runs_note
    | error e => simp [noteEnd, endDeeds, Program.note, Program.runs_measure]
  simp only [Pass.measured, runs_mk, Program.runs_bind, Program.pure_eq, Program.runs_done]
  constructor
  · rintro ⟨ds₁, r', _, h₁, ⟨ds₂, ⟨⟩, _, h₂, ⟨rfl, rfl⟩, rfl⟩, rfl⟩
    exact ⟨ds₁, h₁, by rw [noted.1 h₂]; simp⟩
  · rintro ⟨ds', h, rfl⟩
    exact ⟨ds', r, _, h, ⟨_, (), [], noted.2 rfl, ⟨rfl, rfl⟩, by simp⟩, rfl⟩

end Pass

namespace Provisioning

/-- A request that fails ends the attempt, and the failure tells what was tried. -/
lemma runs_send_bind {β : Type} {ds : List Deed} {context : String} {q : Request}
    {f : q.Answer → Provisioning β} {r : Except ProvisionFailure β} :
    (Provisioning.send context q >>= f).run.Runs ds r ↔
      (∃ e, ds = [.request q (.error e)] ∧ r = .error (.cluster context e)) ∨
        ∃ a ds', ds = .request q (.ok a) :: ds' ∧ (f a).run.Runs ds' r :=
  runs_ask_bind rfl

end Provisioning

/-! ## Programs that keep to some deeds -/

/-- Whatever the program does, in any of its runs, satisfies `P`. -/
def Program.Only {α : Type} (P : Deed → Prop) (p : Program α) : Prop :=
  ∀ ds a, p.Runs ds a → ∀ d ∈ ds, P d

section Only

variable {α β ε : Type} {P : Deed → Prop}

lemma only_bind {p : Program α} {f : α → Program β} (first : p.Only P)
    (rest : ∀ a, (f a).Only P) : (p >>= f).Only P := by
  intro ds b h d hd
  obtain ⟨ds₁, a, ds₂, h₁, h₂, rfl⟩ := Program.runs_bind.1 h
  rcases List.mem_append.1 hd with hd | hd
  · exact first ds₁ a h₁ d hd
  · exact rest a ds₂ b h₂ d hd

lemma only_done (a : α) : (Program.done a).Only P := by
  intro ds b h
  simp [(Program.runs_done.1 h).1]

lemma only_send {q : Request} (asked : ∀ o, P (.request q o)) : (Program.send q).Only P := by
  intro ds o h
  simpa [Program.runs_send.1 h] using asked o

lemma only_note {m : Measurement} (measured : P (.measure m)) : (Program.note m).Only P := by
  intro ds u h
  simpa [Program.runs_note.1 h] using measured

lemma only_emit {e : Event} (published : P (.publish e)) : (Program.emit e).Only P := by
  intro ds u h
  simpa [Program.runs_emit.1 h] using published

lemma only_run_bind {x : ExceptT ε Program α} {f : α → ExceptT ε Program β} (first : x.run.Only P)
    (rest : ∀ a, (f a).run.Only P) : (x >>= f).run.Only P := by
  rw [ExceptT.run_bind]
  refine only_bind first fun outcome => ?_
  cases outcome with
  | ok a => exact rest a
  | error e => exact only_done _

lemma only_lift_bind {p : Program α} {f : α → ExceptT ε Program β} (first : p.Only P)
    (rest : ∀ a, (f a).run.Only P) : (ExceptT.lift p >>= f).run.Only P := by
  rw [ExceptT.run_bind_lift]
  exact only_bind first rest

/-- Sending a request does nothing else, whatever is made of a failure. -/
lemma only_ask {q : Request} {wrap : ApiFailure → ε} (asked : ∀ o, P (.request q o)) :
    (Program.send q >>= fun
      | .ok a => pure (.ok a)
      | .error cause => pure (.error (wrap cause)) : Program (Except ε q.Answer)).Only P := by
  refine only_bind (only_send asked) fun o => ?_
  cases o <;> exact only_done _

end Only

namespace Pass

variable {α β : Type} {P : Deed → Prop}

lemma only_send_bind {q : Request} {f : q.Answer → Pass β} (asked : ∀ o, P (.request q o))
    (rest : ∀ a, (f a).run.Only P) : (Pass.send q >>= f).run.Only P :=
  only_run_bind (only_ask asked) rest

lemma only_note_bind {m : Measurement} {f : Unit → Pass β} (measured : P (.measure m))
    (rest : (f ()).run.Only P) : (Pass.note m >>= f).run.Only P :=
  only_lift_bind (only_note measured) fun _ => rest

lemma only_emit_bind {e : Event} {f : Unit → Pass β} (published : P (.publish e))
    (rest : (f ()).run.Only P) : (Pass.emit e >>= f).run.Only P :=
  only_lift_bind (only_emit published) fun _ => rest

/-- A pass that is measured also takes the measurements at its end. -/
lemma only_measured {controller : Controller} {p : Pass α} (only : p.run.Only P)
    (ends : ∀ r : Except ReconcileFailure α, ∀ d ∈ endDeeds controller r, P d) :
    (Pass.measured controller p).run.Only P := by
  intro ds r h d hd
  obtain ⟨ds', h', rfl⟩ := runs_measured.1 h
  rcases List.mem_append.1 hd with hd | hd
  · exact only ds' r h' d hd
  · exact ends r d hd

end Pass

lemma Provisioning.only_send_bind {β : Type} {P : Deed → Prop} {context : String} {q : Request}
    {f : q.Answer → Provisioning β} (asked : ∀ o, P (.request q o))
    (rest : ∀ a, (f a).run.Only P) : (Provisioning.send context q >>= f).run.Only P :=
  only_run_bind (only_ask asked) rest

end CredentialOperator
