import CredentialOperator.Proofs.Cluster.Effects
import CredentialOperator.Reconcile.Provider
import Mathlib.Tactic.Common

/-!
# The courses of a pass over a provider

A pass over a provider reads, writes the status if it has to, and then tells what is new.  It can go
in three ways, and has no other runs (`ProviderPass.course_of_runs`): the status is kept, it cannot
be written, or it is written.  Which one depends on the check, on the count of grants and on the
status that the provider has.
-/

namespace CredentialOperator

/-- To check a provider is to know already, or to read its master Secret. -/
lemma checkCredential_cases (p : Provider) :
    (∃ c, ∀ ds check, (checkCredential p).Runs ds check ↔ ds = [] ∧ check = c) ∨
      ∃ k, p.spec.auth.apiKey = some k ∧ ∀ ds check, (checkCredential p).Runs ds check ↔
        ∃ outcome, ds = [.request (.checkSecret k.secretRef.secretKey) outcome] ∧
          check = .ofSecret k.secretRef outcome := by
  unfold checkCredential
  split
  · split
    next k block =>
      refine .inr ⟨k, block, fun ds check => ?_⟩
      rw [Program.runs_bind]
      constructor
      · rintro ⟨ds₁, outcome, ds₂, asked, rest, rfl⟩
        obtain rfl := Program.runs_send.1 asked
        obtain ⟨rfl, rfl⟩ := Program.runs_done.1 rest
        exact ⟨outcome, rfl, rfl⟩
      · rintro ⟨outcome, rfl, rfl⟩
        exact ⟨_, outcome, [], Program.runs_send.2 rfl, .done _, rfl⟩
    next => exact .inl ⟨_, fun _ _ => Program.runs_done⟩
  · split <;> exact .inl ⟨_, fun _ _ => Program.runs_done⟩
  · exact .inl ⟨_, fun _ _ => Program.runs_done⟩

/-- To check a provider is to read. -/
lemma checkCredential_reads {p : Provider} {ds : List Deed} {check : CredentialCheck}
    (h : (checkCredential p).Runs ds check) : ∀ d ∈ ds, d.Reads := by
  rcases checkCredential_cases p with ⟨c, runs⟩ | ⟨k, -, runs⟩
  · simp [((runs _ _).1 h).1]
  · obtain ⟨outcome, rfl, -⟩ := (runs _ _).1 h
    simp [Deed.Reads, Request.reads]

namespace ProviderPass

/-- The answer to the question for the grants of a provider. -/
abbrev Listing : Type := Except ApiFailure (List Grant)

variable {now : Timestamp} {p : Provider} {check : CredentialCheck} {listed : Listing}
  {look ds : List Deed} {r : Except ReconcileFailure Action}

/-- What is done before the status is compared with the one that the provider has. -/
def leadDeeds (p : Provider) (check : CredentialCheck) (listed : Listing) (look : List Deed) :
    List Deed :=
  look ++ [.measure (.providerHealth p.name p.spec.provider.text check.healthy),
    .request (.listGrantsOf p.name) listed]

/-- The status that a pass writes, if it writes one. -/
def computedStatus (now : Timestamp) (p : Provider) (check : CredentialCheck) (listed : Listing) :
    ProviderStatus :=
  { statusAfter now p check (listed.toOption.map List.length) with lastCredentialCheck := some now }

lemma computedStatus_conditions : (computedStatus now p check listed).conditions =
    Condition.set (p.status.getD {}).conditions (condition now p check) := rfl

lemma computedStatus_grantCount_ok (grants : List Grant) :
    (computedStatus now p check (.ok grants)).grantCount = Nat.min grants.length largestCount :=
  rfl

lemma computedStatus_grantCount_error (e : ApiFailure) :
    (computedStatus now p check (.error e)).grantCount = (p.status.getD {}).grantCount := rfl

/-- Whether a pass has to write the status. -/
def mustWrite (now : Timestamp) (p : Provider) (check : CredentialCheck) (listed : Listing) :
    Bool :=
  differs (p.status.getD {}) (computedStatus now p check listed) || isStale now (p.status.getD {})

/-- What is told in the end. -/
def news (p : Provider) (check : CredentialCheck) : List Deed :=
  (event? p check).toList.map .publish

/-- The ways in which a pass over a provider can go, before it is measured; `look` is what the check
has read, and `listed` the answer to the question for the grants. -/
inductive Course (now : Timestamp) (p : Provider) (check : CredentialCheck) (listed : Listing)
    (look : List Deed) : List Deed → Except ReconcileFailure Action → Prop where
  /-- The status that the provider has is good enough. -/
  | kept (h : mustWrite now p check listed = false) :
      Course now p check listed look (leadDeeds p check listed look ++ news p check)
        (.ok (.requeueSeconds 300))
  /-- The status cannot be written. -/
  | unwritten (h : mustWrite now p check listed = true) (e : ApiFailure) :
      Course now p check listed look
        (leadDeeds p check listed look ++
          [.request (.patchProviderStatus p.name (computedStatus now p check listed)) (.error e)])
        (.error (.ofApi e))
  /-- The status is written. -/
  | written (h : mustWrite now p check listed = true) :
      Course now p check listed look
        (leadDeeds p check listed look ++
          .request (.patchProviderStatus p.name (computedStatus now p check listed)) (.ok ()) ::
            news p check)
        (.ok (.requeueSeconds 300))

/-- A course fails only if a request does. -/
lemma Course.ok_of_undisturbed (course : Course now p check listed look ds r)
    (undisturbed : Undisturbed ds) : r = .ok (.requeueSeconds 300) := by
  cases course with
  | kept _ => rfl
  | unwritten _ e =>
    exact absurd Deed.fails_error (undisturbed_cons.1 (undisturbed_append.1 undisturbed).2).1
  | written _ => rfl

/-- The end of a pass is to tell what is new. -/
def tell (p : Provider) (check : CredentialCheck) : Pass Action := do
  if let some event := event? p check then
    Pass.emit event
  pure (.requeueSeconds 300)

lemma told_of_runs (h : (tell p check).run.Runs ds r) :
    ds = news p check ∧ r = .ok (.requeueSeconds 300) := by
  unfold tell at h
  unfold news
  cases told : event? p check with
  | none =>
    simp only [told] at h
    exact runs_pure.1 h
  | some e =>
    simp only [told] at h
    obtain ⟨es, rfl, rest⟩ := Pass.runs_emit_bind.1 h
    obtain ⟨rfl, rfl⟩ := runs_pure.1 rest
    exact ⟨rfl, rfl⟩

lemma body_eq (now : Timestamp) (p : Provider) : body now p = (do
    let check ← ExceptT.lift (checkCredential p)
    Pass.note (.providerHealth p.name p.spec.provider.text check.healthy)
    let listed ← ExceptT.lift (Program.send (.listGrantsOf p.name))
    if mustWrite now p check listed then do
      Pass.send (.patchProviderStatus p.name (computedStatus now p check listed))
      tell p check
    else tell p check) := rfl

/-- A pass has no other runs, but for its measurement. -/
theorem course_of_runs (h : (reconcileProvider now p).run.Runs ds r) :
    ∃ check listed look es, (checkCredential p).Runs look check ∧
      Course now p check listed look es r ∧ ds = es ++ Pass.endDeeds .providers r := by
  obtain ⟨es, h₀, rfl⟩ := Pass.runs_measured.1 h
  rw [body_eq] at h₀
  obtain ⟨look, check, es₁, checked, h₁, rfl⟩ := runs_lift_bind.1 h₀
  obtain ⟨es₂, rfl, h₂⟩ := Pass.runs_note_bind.1 h₁
  obtain ⟨es₃, listed, es₄, asked, h₃, rfl⟩ := runs_lift_bind.1 h₂
  obtain rfl := Program.runs_send.1 asked
  refine ⟨check, listed, look, _, checked, ?_, rfl⟩
  have lead : look ++ .measure (.providerHealth p.name p.spec.provider.text check.healthy) ::
      ([.request (.listGrantsOf p.name) listed] ++ es₄) =
        leadDeeds p check listed look ++ es₄ := by simp [leadDeeds]
  rw [lead]
  cases old : mustWrite now p check listed with
  | false =>
    rw [old, if_neg (by simp)] at h₃
    obtain ⟨rfl, rfl⟩ := told_of_runs h₃
    exact .kept old
  | true =>
    rw [old, if_pos rfl] at h₃
    rcases Pass.runs_send_bind.1 h₃ with ⟨e, rfl, rfl⟩ | ⟨⟨⟩, es₅, rfl, h₄⟩
    · exact .unwritten old e
    · obtain ⟨rfl, rfl⟩ := told_of_runs h₄
      exact .written old

end ProviderPass

end CredentialOperator
