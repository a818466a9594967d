import CredentialOperator.Proofs.Admission.GrantReading
import CredentialOperator.Proofs.Admission.Rules
import CredentialOperator.Proofs.Http.FinalizerEdits
import CredentialOperator.Proofs.Reconcile.Gates

/-!
# Releases under review

Before the server stores a grant without its finalizer, it asks about it as about any other change.
The answer does not look at whether the grant is to be deleted, nor at what is changed: it compares
the request of the grant, which may have been stored long before, with the rules of today.  Hence a
release is allowed if and only if these rules are kept (`release_allowed_iff_rules_kept`); one of a
grant that breaks a rule is refused as long as nobody edits the grant (`release_refused`).
-/

namespace CredentialOperator

/-! ## The question and its answer -/

namespace ReviewRequest

variable {q : ReviewRequest} {stored : Json} {g : Grant}

/-- The server asks about the patch with which the operator takes its finalizer from a stored grant
that it has read. -/
structure AsksRelease (q : ReviewRequest) (stored : Json) (g : Grant) : Prop where
  /-- A stored object is to be changed. -/
  operation : q.operation = .update
  /-- The object of the question is what the patch makes of the stored one. -/
  object : ∃ fs, (FinalizerEdit.remove g.key cleanupFinalizer).edit g.finalizers = some fs ∧
    q.object = DynamicObject.ofJson?
      (((FinalizerEdit.remove g.key cleanupFinalizer).writing g fs).mergedInto stored)

/-- The grant that is asked about differs from the stored one in its metadata alone. -/
lemma AsksRelease.grant_read (asks : q.AsksRelease stored g)
    (read : Grant.ofJson? stored = some g) :
    ∃ o fs, q.object = some o ∧ fs = g.finalizers.filter (· ≠ cleanupFinalizer) ∧
      Grant.ofJson? o.toJson =
        some { g with metadata := { g.metadata with finalizers := some fs }.rounded } := by
  obtain ⟨fs, edited, object⟩ := asks.object
  have removed := (FinalizerEdit.changes_of_edit edited).2
  have merged : Grant.ofJson? (stored.mergePatch (finalizersPatch fs g.metadata.resourceVersion)) =
      some { g with metadata.finalizers := some fs } := by
    refine Grant.ofJson?_mergeMetadata read fun parts metadata => ?_
    have set := Metadata.ofJson?_setFinalizers metadata fs
    cases version : g.metadata.resourceVersion with
    | none => simpa [Json.optionalEntry] using set
    | some v =>
      rw [Json.mergeFields_append]
      have again := Metadata.ofJson?_setVersion set v
      rw [← version] at again
      exact again
  obtain ⟨o, asked, again⟩ := Grant.read_as_object merged
  exact ⟨o, fs, object.trans asked, removed, again⟩

/-- A grant that can be read is compared with the rules, and with nothing else. -/
lemma validateGrant_of_read {o : DynamicObject} (operation : q.operation = .update)
    (object : q.object = some o) (read : Grant.ofJson? o.toJson = some g) :
    q.validateGrant =
      match g.spec.violation? with
      | none => { q.allow with warnings := g.spec.warnings }
      | some v => q.deny (v.toFailure (q.ns.getD "" ++ "/" ++ g.name)).message := by
  unfold validateGrant
  simp only [operation, object, read, GrantSpec.validate]
  cases g.spec.violation? <;> rfl

end ReviewRequest

/-- The release of a grant is allowed if and only if the request of the grant keeps the rules,
whether or not it is to be deleted: what is asked about is the stored grant without its finalizer,
and the answer is the one to any other change, with the warnings or with the first violation. -/
theorem release_allowed_iff_rules_kept {stored : Json} {g : Grant} {q : ReviewRequest}
    (read : Grant.ofJson? stored = some g) (asks : q.AsksRelease stored g) :
    (∃ o released, q.object = some o ∧ Grant.ofJson? o.toJson = some released ∧
      released.finalizers = g.finalizers.filter (· ≠ cleanupFinalizer) ∧
      released.isDeleting = g.isDeleting ∧ released.spec = g.spec ∧ released.status = g.status) ∧
    (q.validateGrant.allowed = true ↔ g.spec.KeepsRules) ∧
    (g.spec.KeepsRules → q.validateGrant = { q.allow with warnings := g.spec.warnings }) ∧
    ∀ v, g.spec.violation? = some v →
      q.validateGrant =
        q.deny (v.toFailure (q.ns.getD "" ++ "/" ++ g.name)).message := by
  obtain ⟨o, fs, object, rfl, again⟩ := asks.grant_read read
  have answer := ReviewRequest.validateGrant_of_read asks.operation object again
  refine ⟨⟨o, _, object, again, rfl, ?_, rfl, rfl⟩, ?_, fun kept => ?_, fun v found => ?_⟩
  · simp [Grant.isDeleting, Metadata.rounded]
  · rw [answer, ← GrantSpec.violation?_eq_none_iff]
    cases found : g.spec.violation? <;> simp [ReviewRequest.allow, ReviewRequest.deny]
  · rw [answer, GrantSpec.violation?_eq_none_iff.2 kept]
  · rw [answer, found]
    rfl

namespace Sample

/-- A grant that is to be deleted and gives pods what is listed. -/
def condemned (env : List EnvMapping) : Grant :=
  { grant with metadata.deletionTimestamp := some .epoch, spec.injection := { env } }

/-- The question about the release of a grant. -/
def releaseQuestion (g : Grant) : ReviewRequest where
  uid := "705ab4f5"
  operation := .update
  ns := some "team"
  object := DynamicObject.ofJson?
    (((FinalizerEdit.remove g.key cleanupFinalizer).writing g []).mergedInto g.toJson)

lemma asksRelease (env : List EnvMapping) :
    (releaseQuestion (condemned env)).AsksRelease (condemned env).toJson (condemned env) :=
  ⟨rfl, [], rfl, rfl⟩

end Sample

/-- A grant that gives pods a variable is released. -/
theorem sample_release_allowed_iff_rules_kept :
    (Sample.releaseQuestion (Sample.condemned [⟨"API_KEY", "apiKey"⟩])).validateGrant.allowed =
      true := by
  have read : Grant.ofJson? (Sample.condemned [⟨"API_KEY", "apiKey"⟩]).toJson =
      some (Sample.condemned [⟨"API_KEY", "apiKey"⟩]) := by rfl
  refine (release_allowed_iff_rules_kept read (Sample.asksRelease _)).2.1.2 ?_
  exact GrantSpec.violation?_eq_none_iff.1 (by decide +kernel)

/-- A grant that gives pods nothing, stored when no rule forbade it, is not released although it is
to be deleted. -/
theorem release_refused :
    ∃ stored g q, Grant.ofJson? stored = some g ∧ g.isDeleting = true ∧
      ReviewRequest.AsksRelease q stored g ∧ q.validateGrant.allowed = false := by
  have read : Grant.ofJson? (Sample.condemned []).toJson = some (Sample.condemned []) := by rfl
  have asks := Sample.asksRelease []
  refine ⟨_, _, _, read, rfl, asks, ?_⟩
  obtain ⟨o, fs, object, -, again⟩ := asks.grant_read read
  rw [ReviewRequest.validateGrant_of_read rfl object again]
  have refused : (Sample.condemned []).spec.violation? = some .noInjection := by decide
  simp [refused, ReviewRequest.deny]

end CredentialOperator
