import CredentialOperator.Proofs.Cluster.Places
import CredentialOperator.Proofs.Reconcile.Lifetimes

/-!
# What a pass leaves behind

A pass that serves a grant ends in one of three ways: the grant is refused, the artifact cannot be
made, or it is made.  This is told three times: by the conditions that are entered into the old
status, by the state that readers infer from all conditions there, and by the action that is asked
for.  `Finding.Told` says that the three tell the same.

The state is inferred from the condition `Ready` alone as long as there is one
(`GrantState.ofConditions_of_verdict`), and every pass enters one, so that nothing which older
passes left in the status can interfere.
-/

namespace CredentialOperator

/-! ## States -/

lemma GrantReason.isPermanentText_text (reason : GrantReason) :
    isPermanentText reason.text = reason.isPermanent := by
  cases reason <;> decide

/-- The first condition on the grant as a whole decides about the state. -/
lemma GrantState.ofConditions_of_verdict {s : GrantStatus} {c : Condition} {holds : Bool}
    {reason : GrantReason} (found : s.condition? .ready = some c)
    (status : c.status = .ofBool holds) (said : c.reason = reason.text) :
    ofConditions s.conditions =
      if holds then .ready
      else if reason.isPermanent then .rejectedPermanent
      else if reason = .provisioningFailed then .degraded
      else .waiting := by
  have failed : reason.text = GrantReason.provisioningFailed.text ↔
      reason = .provisioningFailed :=
    ⟨GrantReason.text_injective, congrArg GrantReason.text⟩
  rw [GrantStatus.condition?] at found
  simp only [ofConditions, found, status, said, GrantReason.isPermanentText_text, failed]
  cases holds <;> rfl

/-- A pass comes back by itself exactly if there is a next rotation. -/
lemma Rotation.wake_nextAfter {now last : Timestamp} {i : Option Interval} :
    (∃ delay, wake now i (nextAfter last i) = .requeue delay) ↔ (nextAfter last i).isSome := by
  cases i with
  | none => simp [wake, nextAfter]
  | some i => cases h : last.addSeconds? i.seconds <;> simp [wake, nextAfter, h]

/-- Entering a condition leaves the others as they are. -/
lemma Grant.mem_enter {g : Grant} {now : Timestamp} {type : GrantConditionType} {holds : Bool}
    {reason : GrantReason} {message : String} {s : GrantStatus} {c : Condition}
    (h : c ∈ (g.enter now type holds reason message s).conditions) :
    c ∈ s.conditions ∨ c.observedGeneration = g.metadata.generation := by
  rcases Condition.mem_set h with h | ⟨t, rfl⟩
  · exact .inl h
  · exact .inr rfl

/-! ## Findings and what tells them -/

namespace Finding

variable {now : Timestamp} {g : Grant} {f : Finding}

/-- Whether the artifact was made. -/
def isMade : Finding → Bool
  | .rejected _ | .failed _ => false
  | .provisioned _ _ => true

/-- The reason that is given for what was found. -/
def reason : Finding → GrantReason
  | .rejected rej => rej.reason
  | .failed _ => .provisioningFailed
  | .provisioned _ _ => .credentialReady

/-- The state that a grant is in after a finding. -/
def state : Finding → GrantState
  | .rejected rej => if rej.reason.isPermanent then .rejectedPermanent else .waiting
  | .failed _ => .degraded
  | .provisioned _ _ => .ready

/-- What is asked for after a finding. -/
def action (now : Timestamp) (g : Grant) : Finding → Action
  | .rejected rej => rej.action
  | .failed _ => .requeueSeconds 30
  | .provisioned p _ =>
    Rotation.wake now (rotationInterval? g.spec p.spec) (GrantPass.rotationOf now g p).next

/-- A status and an action tell what was found out about a grant: the state of the status belongs
to the finding, the action to both, and what the status says of the finding was derived from the
present generation of the grant. -/
structure Told (f : Finding) (g : Grant) (t : GrantStatus) (a : Action) : Prop where
  waiting : GrantState.ofConditions t.conditions = .waiting ↔
    f.reason = .declarationNotFound ∨ f.reason = .strategyUnsupported
  refused : GrantState.ofConditions t.conditions = .rejectedPermanent ↔
    f.reason = .namespaceNotAllowed ∨ f.reason = .capabilityNotAllowed
  degraded : GrantState.ofConditions t.conditions = .degraded ↔ ∃ e, f = .failed e
  ready : GrantState.ofConditions t.conditions = .ready ↔ ∃ p result, f = .provisioned p result
  after_missing : f.reason = .declarationNotFound → a = .requeueSeconds 30
  after_unsupported : f.reason = .strategyUnsupported → a = .requeueSeconds 300
  after_refusal : GrantState.ofConditions t.conditions = .rejectedPermanent → a = .awaitChange
  after_failure : GrantState.ofConditions t.conditions = .degraded → a = .requeueSeconds 30
  after_success : GrantState.ofConditions t.conditions = .ready →
    ((∃ delay, a = .requeue delay) ↔ t.nextRotation.isSome)
  verdict : ∃ c, t.condition? .ready = some c ∧ c.reason = f.reason.text ∧
    c.observedGeneration = g.metadata.generation
  attempt : (∀ rej, f ≠ .rejected rej) →
    ∃ c, t.condition? .credentialProvisioned = some c ∧
      c.observedGeneration = g.metadata.generation
  others : ∀ c ∈ t.conditions,
    c ∈ g.statusOrEmpty.conditions ∨ c.observedGeneration = g.metadata.generation

/-! ### What is computed -/

/-- Whatever else it holds, the computed status says of the grant as a whole what was found. -/
lemma verdict_status (f : Finding) (now : Timestamp) (g : Grant) :
    ∃ c, (f.status now g).condition? .ready = some c ∧ c.status = .ofBool f.isMade ∧
      c.reason = f.reason.text ∧ c.observedGeneration = g.metadata.generation := by
  cases f <;> exact g.condition?_enter_self now .ready _ _ _ _

lemma state_status (f : Finding) (now : Timestamp) (g : Grant) :
    GrantState.ofConditions (f.status now g).conditions = f.state := by
  obtain ⟨c, found, status, said, -⟩ := f.verdict_status now g
  rw [GrantState.ofConditions_of_verdict found status said]
  cases f with
  | rejected rej => cases rej <;> rfl
  | failed e => rfl
  | provisioned p result => rfl

/-- The condition on the artifact is entered before that on the grant as a whole, which is of
another type. -/
lemma attempt_status (h : ∀ rej, f ≠ .rejected rej) :
    ∃ c, (f.status now g).condition? .credentialProvisioned = some c ∧
      c.observedGeneration = g.metadata.generation := by
  cases f with
  | rejected rej => exact absurd rfl (h rej)
  | failed e =>
    obtain ⟨c, found, -, -, current⟩ := g.condition?_enter_self now .credentialProvisioned false
      .provisioningFailed e.message g.statusOrEmpty
    exact ⟨c, (Grant.condition?_enter_of_ne (by simp)).trans found, current⟩
  | provisioned p result =>
    obtain ⟨c, found, -, -, current⟩ := g.condition?_enter_self now .credentialProvisioned true
      .artifactProvisioned s!"Secret {result.ns}/{result.name} provisioned" _
    exact ⟨c, (Grant.condition?_enter_of_ne (by simp)).trans found, current⟩

lemma mem_conditions_status {c : Condition} (h : c ∈ (f.status now g).conditions) :
    c ∈ g.statusOrEmpty.conditions ∨ c.observedGeneration = g.metadata.generation := by
  cases f with
  | rejected rej => exact Grant.mem_enter h
  | failed e => exact (Grant.mem_enter h).elim Grant.mem_enter .inr
  | provisioned p result => exact (Grant.mem_enter h).elim Grant.mem_enter .inr

/-- Each state that a pass can lead to belongs to certain findings. -/
lemma state_iff (f : Finding) :
    (f.state = .waiting ↔ f.reason = .declarationNotFound ∨ f.reason = .strategyUnsupported) ∧
      (f.state = .rejectedPermanent ↔
        f.reason = .namespaceNotAllowed ∨ f.reason = .capabilityNotAllowed) ∧
      (f.state = .degraded ↔ ∃ e, f = .failed e) ∧
      (f.state = .ready ↔ ∃ p result, f = .provisioned p result) := by
  rcases f with (_ | _ | _ | _) | _ | _ <;>
    simp [state, reason, Rejection.reason, GrantReason.isPermanent]

/-- What is asked for after a finding that leaves the grant without an artifact. -/
lemma action_of_unmade (f : Finding) (now : Timestamp) (g : Grant) :
    (f.reason = .declarationNotFound → f.action now g = .requeueSeconds 30) ∧
      (f.reason = .strategyUnsupported → f.action now g = .requeueSeconds 300) ∧
      (f.state = .rejectedPermanent → f.action now g = .awaitChange) ∧
      (f.state = .degraded → f.action now g = .requeueSeconds 30) := by
  rcases f with (_ | _ | _ | _) | _ | _ <;>
    simp [state, reason, action, Rejection.reason, Rejection.action, GrantReason.isPermanent]

/-- A pass that made the artifact comes back for the next rotation if there is one. -/
lemma action_of_made (h : f.state = .ready) :
    (∃ delay, f.action now g = .requeue delay) ↔ (f.status now g).nextRotation.isSome := by
  obtain ⟨p, result, rfl⟩ := f.state_iff.2.2.2.1 h
  exact Rotation.wake_nextAfter

/-- What a pass computes and asks for tells what it found. -/
lemma told_status (f : Finding) (now : Timestamp) (g : Grant) :
    f.Told g (f.status now g) (f.action now g) := by
  obtain ⟨waiting, refused, degraded, ready⟩ := f.state_iff
  obtain ⟨missing, unsupported, refusal, failure⟩ := f.action_of_unmade now g
  obtain ⟨c, found, -, said, current⟩ := f.verdict_status now g
  have inferred := f.state_status now g
  exact {
    waiting := by rwa [inferred]
    refused := by rwa [inferred]
    degraded := by rwa [inferred]
    ready := by rwa [inferred]
    after_missing := missing
    after_unsupported := unsupported
    after_refusal := by rwa [inferred]
    after_failure := by rwa [inferred]
    after_success := by
      rw [inferred]
      exact action_of_made
    verdict := ⟨c, found, said, current⟩
    attempt := attempt_status
    others := fun _ => mem_conditions_status }

end Finding

/-! ## What passes tell -/

/-- An artifact is written elsewhere than a grant. -/
lemma Deed.spares_of_applies {d : Deed} {key : ObjectKey} (h : d.applies = true) :
    d.Spares (.grant key) := by
  cases d with
  | request r out =>
    cases r with
    | applySecret _ _ | applyDynamic _ _ _ => exact .inr (by simp [Request.place?])
    | _ => cases h
  | publish e => trivial
  | measure m => trivial

namespace GrantPass

variable {now : Timestamp} {g : Grant} {ns : String} {ds : List Deed} {f : Finding}
  {r : Except ReconcileFailure Action} {a : Action} {o o' : Objects}

/-- Telling what was found is a report, around which nothing happens to the cluster. -/
lemma Tells.report (h : Tells now g ns f ds r) : ∃ before news after,
    Report g ns (f.status now g) before news after (f.action now g) ds r ∧
      ∀ d, d ∈ before ∨ d ∈ news ∨ d ∈ after → d.Quiet := by
  cases f with
  | rejected rej => exact ⟨_, _, _, h, fun _ => quiet_rejection⟩
  | failed e => exact ⟨_, _, _, h, fun _ => quiet_failure⟩
  | provisioned p result =>
    obtain ⟨look, reads, report⟩ := h
    exact ⟨_, _, _, report, fun _ => quiet_provisioned reads⟩

/-- A pass that ends well over a grant that is to be served asks for what its finding calls for,
and leaves the status that it computed from it. -/
lemma outcome_of_pass (hns : g.metadata.ns = some ns) (kept : g.isDeleting = false)
    (claimed : hasFinalizer g = true) (h : (reconcileGrant now g).run.Runs ds (.ok a)) :
    ∃ f, Finds now g ns ds f ∧ a = f.action now g ∧
      statusAfter g.status ds = some (f.status now g) ∧
      ∀ o o' : Objects, o.Allows now ds o' → o.grants[g.key]? = some g →
        o'.grants[g.key]? = some { g with status := some (f.status now g) } := by
  obtain ⟨es, served, rfl⟩ := Pass.runs_measured.1 h
  simp only [body, hns, kept, claimed, Bool.false_eq_true, if_false, if_true] at served
  rcases serve_tells hns served with
    ⟨⟨_, failed⟩, -⟩ | ⟨f, lead, told, rfl, finds, silent, mild, tells⟩
  · cases failed
  obtain ⟨before, news, after, report, quiet⟩ := tells.report
  have reported := (tells.reported.after lead silent).before (Pass.endDeeds .grants (.ok a))
    (by simp [Pass.endDeeds, Deed.Silent])
  refine ⟨f, finds.append _, report.asked, reported.statusAfter, fun o o' allowed stored => ?_⟩
  obtain ⟨o₂, allowed, last⟩ := Objects.allows_append.1 allowed
  obtain rfl := Objects.allows_of_quiet quiet_endDeeds last
  obtain ⟨o₁, first, allowed⟩ := Objects.allows_append.1 allowed
  -- what comes before the report leaves the grant alone
  have spared : o₁.content (.grant g.key) = o.content (.grant g.key) := by
    refine Objects.content_kept (fun d hd => ?_) first
    rcases mild d hd with reads | applies
    · exact reads.quiet.spares
    · exact Deed.spares_of_applies applies
  have present : o₁.grants[g.key]? = some g := spared.trans stored
  rw [Grant.key_eq hns] at present ⊢
  obtain ⟨t, left, rfl | ⟨old, same⟩⟩ := report.stored_of_ok quiet present allowed
  · exact left
  · rw [f.status_of_equivalent old same]
    exact left

/-- An undisturbed pass over a grant that is cleared makes the artifact. -/
lemma made_of_cleared {p : Provider} (hns : g.metadata.ns = some ns) (cleared : o.Cleared g ns p)
    (key : o.HoldsKey p) (now : Timestamp) :
    ∃ ds a o' result, (reconcileGrant now g).run.Runs ds (.ok a) ∧ o.Allows now ds o' ∧
      Undisturbed ds ∧ Finds now g ns ds (.provisioned p result) := by
  have kept : g.isDeleting = false := by simp [Grant.isDeleting, cleared.kept]
  have claimed : hasFinalizer g = true := by simpa [hasFinalizer] using cleared.claimed
  obtain ⟨ds, r, o', runs, allowed, undisturbed⟩ :=
    o.exists_undisturbed now (reconcileGrant now g).run
  -- the pass ends well, since it makes the artifact
  obtain ⟨es, course, served, same⟩ := course_of_allowed runs allowed
  have calm : Undisturbed es := (undisturbed_append.1 (same ▸ undisturbed)).1
  obtain ⟨_, _, told, -, report, -, calm⟩ :=
    (course.serving_of_claimed hns kept claimed).made_of_cleared cleared key calm served
  obtain rfl := report.ok_of_undisturbed calm
  obtain ⟨f, finds, -, -⟩ := outcome_of_pass hns kept claimed runs
  rcases finds.read allowed with ⟨missing, -⟩ | ⟨p', rej, found, gate, -⟩ |
      ⟨p', s, tries, rest, outcome, o₂, found, gate, attempt, tried, rfl, rfl⟩
  · cases missing.symm.trans cleared.found
  · have refused := Objects.verdict_of_refusal found gate
    rw [Objects.verdict_of_cleared cleared key] at refused
    cases rej <;> cases refused
  · obtain rfl := Option.some.inj (cleared.found.symm.trans found)
    have tries_calm := (undisturbed_append.1
      (undisturbed_cons.1 (undisturbed_cons.1 undisturbed).2).2).1
    obtain ⟨-, ⟨⟨result, rfl⟩, -⟩ | ⟨-, unable⟩⟩ :=
      (Strategy.attempt_of_runs hns attempt).outcome (Grant.gate_ok_iff.1 gate).2.2 tries_calm tried
    · exact ⟨_, _, o', result, runs, allowed, undisturbed, finds⟩
    · cases unable.symm.trans (Objects.canProvide_of_cleared cleared key)

end GrantPass

/-- Status, state and action tell one story.  Let a pass over a grant that is to be kept and has its
finalizer end well, whatever status the grant has before, whatever the cluster holds and whichever
requests fail.  Then the pass has found one thing about the grant, and the status that it hands over
or keeps and the action that it asks for tell this.  A cluster in memory, which puts the status that
it is handed in the place of the old one, holds this status afterwards; where it is merged into the
old one, a field that it lacks may be left from before, while its conditions are the same. -/
theorem outcome_told {now : Timestamp} {g : Grant} {ds : List Deed} {a : Action} {o o' : Objects}
    (kept : g.metadata.deletionTimestamp = none) (claimed : cleanupFinalizer ∈ g.finalizers)
    (runs : (reconcileGrant now g).run.Runs ds (.ok a)) (allowed : o.Allows now ds o') :
    ∃ ns f t, g.metadata.ns = some ns ∧ GrantPass.Finds now g ns ds f ∧
      statusAfter g.status ds = some t ∧
      (o.grants[g.key]? = some g → o'.grants[g.key]? = some { g with status := some t }) ∧
      f.Told g t a := by
  have kept : g.isDeleting = false := by simp [Grant.isDeleting, kept]
  have claimed : GrantPass.hasFinalizer g = true := by simpa [GrantPass.hasFinalizer] using claimed
  cases hns : g.metadata.ns with
  | none =>
    -- without a namespace the pass fails
    obtain ⟨es, served, -⟩ := Pass.runs_measured.1 runs
    simp [GrantPass.body, hns] at served
  | some ns =>
    obtain ⟨f, finds, rfl, handed, left⟩ := GrantPass.outcome_of_pass hns kept claimed runs
    exact ⟨ns, f, f.status now g, rfl, finds, handed, left o o' allowed, f.told_status now g⟩

/-- In the small cluster, the pass that makes the artifact tells so. -/
theorem sample_outcome_told :
    Sample.rotating.metadata.deletionTimestamp = none ∧
      cleanupFinalizer ∈ Sample.rotating.finalizers ∧
      ∃ ds a o' result t, (reconcileGrant .epoch Sample.rotating).run.Runs ds (.ok a) ∧
        Sample.objects.Allows .epoch ds o' ∧ statusAfter none ds = some t ∧
        GrantState.ofConditions t.conditions = .ready ∧
        (Finding.provisioned Sample.provider result).Told Sample.rotating t a := by
  have claimed : cleanupFinalizer ∈ Sample.rotating.finalizers := by decide
  obtain ⟨ds, a, o', result, runs, allowed, -, made⟩ := GrantPass.made_of_cleared
    Sample.rotating_at_home Sample.cleared_rotating Sample.holdsKey .epoch
  obtain ⟨ns, f, t, home, finds, handed, -, told⟩ := outcome_told rfl claimed runs allowed
  obtain rfl := Option.some.inj (home.symm.trans Sample.rotating_at_home)
  obtain rfl := finds.unique made
  exact ⟨rfl, claimed, ds, a, o', result, t, runs, allowed, handed, told.ready.2 ⟨_, _, rfl⟩, told⟩

end CredentialOperator
