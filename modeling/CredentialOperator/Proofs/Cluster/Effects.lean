import CredentialOperator.Cluster.Memory
import CredentialOperator.Proofs.Cluster.Runs

/-!
# What runs do to a cluster

`o.Allows now ds o'` says that deeds can be done in a cluster that holds the objects `o`, and
leave it with `o'`: every request either is carried out, with the answer that the objects
give, or fails and changes nothing.  Any requests may fail; a run in which none does is
`Undisturbed`.

The definition does not promise too much: a run with `Memory.backend` is one of these, and the
runs of a cluster without faults are undisturbed (`Memory.run_allowed`).
-/

namespace CredentialOperator

/-- Whether a request only reads. -/
def Request.reads : Request → Bool
  | .getProvider _ | .getNamespaceLabels _ | .checkSecret _ | .listGrantsOf _ | .listGrants _
  | .getSecret _ | .getDynamic _ _ => true
  | _ => false

namespace Deed

/-- The deed is a request that only reads. -/
def Reads : Deed → Prop
  | .request r _ => r.reads = true
  | _ => False

/-- The deed changes no objects, whatever its outcome. -/
def Quiet : Deed → Prop
  | .request r _ => r.reads = true
  | _ => True

lemma Reads.quiet {d : Deed} (h : d.Reads) : d.Quiet := by
  cases d with
  | request r o => exact h
  | publish e => trivial
  | measure m => trivial

@[simp] lemma quiet_publish {e : Event} : (Deed.publish e).Quiet := trivial

@[simp] lemma quiet_measure {m : Measurement} : (Deed.measure m).Quiet := trivial

/-- The deed is a request that fails. -/
def Fails : Deed → Prop
  | .request _ (.error _) => True
  | _ => False

@[simp] lemma fails_ok {r : Request} {a : r.Answer} : ¬ (Deed.request r (.ok a)).Fails := id

@[simp] lemma fails_error {r : Request} {e : ApiFailure} : (Deed.request r (.error e)).Fails :=
  trivial

@[simp] lemma fails_publish {e : Event} : ¬ (Deed.publish e).Fails := id

@[simp] lemma fails_measure {m : Measurement} : ¬ (Deed.measure m).Fails := id

end Deed

/-- No request of a run fails. -/
def Undisturbed (ds : List Deed) : Prop := ∀ d ∈ ds, ¬ d.Fails

@[simp] lemma undisturbed_nil : Undisturbed [] := by simp [Undisturbed]

@[simp] lemma undisturbed_cons {d : Deed} {ds : List Deed} :
    Undisturbed (d :: ds) ↔ ¬ d.Fails ∧ Undisturbed ds := by
  simp [Undisturbed]

@[simp] lemma undisturbed_append {ds es : List Deed} :
    Undisturbed (ds ++ es) ↔ Undisturbed ds ∧ Undisturbed es := by
  simp only [Undisturbed, List.mem_append]
  constructor
  · intro h
    exact ⟨fun d hd => h d (.inl hd), fun d hd => h d (.inr hd)⟩
  · rintro ⟨h₁, h₂⟩ d (hd | hd)
    · exact h₁ d hd
    · exact h₂ d hd

namespace Objects

/-- A cluster that holds `o` lets the deeds be done, and holds `o'` afterwards. -/
def Allows (now : Timestamp) (o : Objects) : List Deed → Objects → Prop
  | [], o' => o' = o
  | .request r (.ok a) :: ds, o' =>
    (o.answer now r).1 = a ∧ (o.answer now r).2.Allows now ds o'
  | .request _ (.error _) :: ds, o' => o.Allows now ds o'
  | .publish _ :: ds, o' => o.Allows now ds o'
  | .measure _ :: ds, o' => o.Allows now ds o'

section

variable {now : Timestamp} {o o' : Objects} {ds es : List Deed}

@[simp] lemma allows_nil : o.Allows now [] o' ↔ o' = o := Iff.rfl

@[simp] lemma allows_ok {r : Request} {a : r.Answer} :
    o.Allows now (.request r (.ok a) :: ds) o' ↔
      (o.answer now r).1 = a ∧ (o.answer now r).2.Allows now ds o' := Iff.rfl

@[simp] lemma allows_error {r : Request} {e : ApiFailure} :
    o.Allows now (.request r (.error e) :: ds) o' ↔ o.Allows now ds o' := Iff.rfl

@[simp] lemma allows_publish {e : Event} :
    o.Allows now (.publish e :: ds) o' ↔ o.Allows now ds o' := Iff.rfl

@[simp] lemma allows_measure {m : Measurement} :
    o.Allows now (.measure m :: ds) o' ↔ o.Allows now ds o' := Iff.rfl

lemma allows_append :
    o.Allows now (ds ++ es) o' ↔ ∃ o₁, o.Allows now ds o₁ ∧ o₁.Allows now es o' := by
  induction ds generalizing o with
  | nil => simp
  | cons d ds ih =>
    match d with
    | .request r (.ok a) => simp [ih, and_assoc]
    | .request r (.error e) => simp [ih]
    | .publish e => simp [ih]
    | .measure m => simp [ih]

lemma allows_cons {d : Deed} :
    o.Allows now (d :: ds) o' ↔ ∃ o₁, o.Allows now [d] o₁ ∧ o₁.Allows now ds o' := by
  rw [← List.singleton_append]
  exact allows_append

/-- Reading changes nothing. -/
lemma answer_of_reads {r : Request} (h : r.reads = true) : (o.answer now r).2 = o := by
  cases r <;> first | rfl | simp [Request.reads] at h

/-- Quiet deeds leave the objects as they are. -/
lemma allows_of_quiet (h : ∀ d ∈ ds, d.Quiet) (ha : o.Allows now ds o') : o' = o := by
  induction ds with
  | nil => exact ha
  | cons d ds ih =>
    have hd : d.Quiet := h d (by simp)
    have hds : ∀ d ∈ ds, d.Quiet := fun e he => h e (by simp [he])
    match d, hd, ha with
    | .request r (.ok a), hd, ha =>
      rw [allows_ok, answer_of_reads hd] at ha
      exact ih hds ha.2
    | .request r (.error e), _, ha => exact ih hds ha
    | .publish e, _, ha => exact ih hds ha
    | .measure m, _, ha => exact ih hds ha

end

end Objects

namespace Memory

/-- A run with a cluster in memory is a run that the objects of the cluster allow, at a time
that stands still; without faults it is undisturbed. -/
theorem run_allowed {α : Type} (p : Program α) (m : Memory) :
    ∃ ds, p.Runs ds (p.run backend m).1 ∧
      m.objects.Allows m.now ds (p.run backend m).2.objects ∧
      (m.faults = [] → Undisturbed ds) := by
  induction p generalizing m with
  | done a => exact ⟨[], .done a, rfl, fun _ => by simp⟩
  | request r next ih =>
    rw [Program.run_request]
    have carried : (backend.answer r m) = answer r m := rfl
    rw [carried]
    cases hf : Fault.refuse? m.faults r with
    | mk response left =>
      cases response with
      | some response =>
        -- a planted fault stands in for the cluster, which is not asked
        have refused : answer r m = (.error (.refused response),
            { m with faults := left, journal.requests := m.journal.requests ++ [r] }) := by
          simp [answer, hf]
        rw [refused]
        obtain ⟨ds, hr, ha, -⟩ := ih (.error (.refused response))
          { m with faults := left, journal.requests := m.journal.requests ++ [r] }
        refine ⟨.request r (.error (.refused response)) :: ds, .request _ hr, ha, ?_⟩
        intro none_planted
        rw [none_planted] at hf
        cases hf
      | none =>
        -- otherwise the objects answer, and the rest runs over what they have become
        have answered : answer r m = (.ok (m.objects.answer m.now r).1,
            { m with
              objects := (m.objects.answer m.now r).2
              journal.requests := m.journal.requests ++ [r] }) := by
          simp [answer, hf]
        rw [answered]
        obtain ⟨ds, hr, ha, hu⟩ := ih (.ok (m.objects.answer m.now r).1)
          { m with
            objects := (m.objects.answer m.now r).2
            journal.requests := m.journal.requests ++ [r] }
        exact ⟨.request r (.ok (m.objects.answer m.now r).1) :: ds, .request _ hr, ⟨rfl, ha⟩,
          fun none_planted => by simpa using hu none_planted⟩
  | publish e next ih =>
    obtain ⟨ds, hr, ha, hu⟩ := ih (m.publish e)
    have same : (m.publish e).objects = m.objects ∧ (m.publish e).now = m.now ∧
        (m.publish e).faults = m.faults := by
      unfold publish
      split <;> exact ⟨rfl, rfl, rfl⟩
    rw [same.1, same.2.1] at ha
    rw [same.2.2] at hu
    exact ⟨.publish e :: ds, .publish hr, ha, fun none_planted => by simpa using hu none_planted⟩
  | measure e next ih =>
    obtain ⟨ds, hr, ha, hu⟩ := ih (m.measure e)
    exact ⟨.measure e :: ds, .measure hr, ha, fun none_planted => by simpa using hu none_planted⟩

end Memory

/-- Every program has an undisturbed run over any objects. -/
lemma Objects.exists_undisturbed {α : Type} (now : Timestamp) (o : Objects) (p : Program α) :
    ∃ ds a o', p.Runs ds a ∧ o.Allows now ds o' ∧ Undisturbed ds := by
  obtain ⟨ds, hr, ha, hu⟩ := Memory.run_allowed p { now, objects := o }
  exact ⟨ds, _, _, hr, ha, hu rfl⟩

end CredentialOperator
