import CredentialOperator.Proofs.Reconcile.Gates
import CredentialOperator.Proofs.Time.Instants
import CredentialOperator.Proofs.Time.Intervals

/-!
# Rotations on schedule

Passes over a grant that succeed, one after the other and each in the time that the one before
it asked for, rotate the credential at every whole number of intervals after the first of them
and never in between.

A pass in `Punctual` order finds the status that the one before it left.  The invariant of such
a sequence is `Scheduled`: the status records the artifact, with a last rotation that lies a
whole number of intervals after the start, and the next one an interval later.  A pass is never
called for later than the next rotation, so that it comes upon it exactly or not at all.
-/

namespace CredentialOperator

/-! ## Statuses that stay as they are -/

/-- The condition of a grant that tells that its artifact was made. -/
def Grant.artifactCondition (g : Grant) (now : Timestamp) (ns : String) : Condition :=
  g.condition now .credentialProvisioned true .artifactProvisioned
    s!"Secret {ns}/{g.spec.secretName} provisioned"

/-- The condition of a grant that tells that pods can be given its artifact. -/
def Grant.readyCondition (g : Grant) (now : Timestamp) : Condition :=
  g.condition now .ready true .credentialReady "credential is ready for injection"

/-- Two grants are versions of one: what it asks for and how it is called are the same. -/
structure Grant.SameRequest (g g' : Grant) : Prop where
  spec : g'.spec = g.spec
  ns : g'.metadata.ns = g.metadata.ns
  name : g'.name = g.name
  generation : g'.metadata.generation = g.metadata.generation

/-- A status that tells that the artifact of a grant was made for what the grant asks for. -/
structure Grant.Recorded (g : Grant) (ns : String) (t : GrantStatus) : Prop where
  made : ∃ c, Condition.find? t.conditions GrantConditionType.credentialProvisioned.text = some c ∧
    ∀ now, Condition.sameState c (g.artifactCondition now ns) = true
  ready : ∃ c, t.verdict? = some c ∧ ∀ now, Condition.sameState c (g.readyCondition now) = true
  secretRef : t.secretRef = some { kind := "Secret", ns, name := g.spec.secretName }
  capabilities : t.grantedCapabilities = g.spec.capabilities

namespace Grant

variable {g g' : Grant} {ns : String} {now : Timestamp} {rotation : Rotation}
  {result : ProvisionResult} {t : GrantStatus}

lemma SameRequest.recorded (h : g.SameRequest g') : g.Recorded ns t ↔ g'.Recorded ns t := by
  have made : ∀ now, g'.artifactCondition now ns = g.artifactCondition now ns := by
    intro now
    simp [artifactCondition, condition, h.spec, h.generation]
  have ready : ∀ now, g'.readyCondition now = g.readyCondition now := by
    intro now
    simp [readyCondition, condition, h.generation]
  constructor
  · rintro ⟨hm, hr, hs, hc⟩
    exact ⟨by simpa [made] using hm, by simpa [ready] using hr, by rw [h.spec]; exact hs,
      by rw [h.spec]; exact hc⟩
  · rintro ⟨hm, hr, hs, hc⟩
    exact ⟨by simpa [made] using hm, by simpa [ready] using hr, by rw [← h.spec]; exact hs,
      by rw [← h.spec]; exact hc⟩

/-- Conditions differ by the time when they were derived in nothing else. -/
lemma sameState_condition {type : GrantConditionType} {holds : Bool} {reason : GrantReason}
    {message : String} (now now' : Timestamp) :
    Condition.sameState (g.condition now type holds reason message)
      (g.condition now' type holds reason message) = true := by
  simp [Condition.sameState, condition]

lemma recorded_provisionedStatus (hns : result.ns = ns) (hname : result.name = g.spec.secretName) :
    g.Recorded ns (g.provisionedStatus now rotation result) := by
  subst hns
  have conditions : (g.provisionedStatus now rotation result).conditions =
      Condition.set (Condition.set g.statusOrEmpty.conditions (g.artifactCondition now result.ns))
        (g.readyCondition now) := by
    simp only [provisionedStatus, enter, artifactCondition, readyCondition, hname]
  refine ⟨?_, ?_, ?_, rfl⟩
  · obtain ⟨c, found, same⟩ :=
      Condition.find?_set g.statusOrEmpty.conditions (g.artifactCondition now result.ns)
    refine ⟨c, ?_, fun now' => Condition.sameState_trans same (sameState_condition now now')⟩
    rw [conditions, Condition.find?_set_of_ne]
    · exact found
    · simp [readyCondition, condition, GrantConditionType.text]
  · obtain ⟨c, found, same⟩ := Condition.find?_set
      (Condition.set g.statusOrEmpty.conditions (g.artifactCondition now result.ns))
      (g.readyCondition now)
    refine ⟨c, ?_, fun now' => Condition.sameState_trans same (sameState_condition now now')⟩
    rw [GrantStatus.verdict?, conditions]
    exact found
  · simp [provisionedStatus, enter, hname]

/-- A grant whose artifact is recorded, with the same schedule, is not told so again. -/
lemma equivalent_provisionedStatus (now : Timestamp) (hs : g.status = some t)
    (recorded : g.Recorded ns t) (last : t.lastRotation = some rotation.last)
    (next : t.nextRotation = rotation.next)
    (hns : result.ns = ns) (hname : result.name = g.spec.secretName) :
    t.equivalent (g.provisionedStatus now rotation result) = true := by
  subst hns
  obtain ⟨⟨made, hmade, made_same⟩, ⟨ready, hready, ready_same⟩, secretRef, capabilities⟩ :=
    recorded
  have status : g.statusOrEmpty = t := by simp [statusOrEmpty, hs]
  have conditions : (g.provisionedStatus now rotation result).conditions =
      Condition.set (Condition.set t.conditions (g.artifactCondition now result.ns))
        (g.readyCondition now) := by
    simp only [provisionedStatus, enter, artifactCondition, readyCondition, hname, status]
  have first : Condition.equivalent t.conditions
      (Condition.set t.conditions (g.artifactCondition now result.ns)) = true :=
    Condition.equivalent_set hmade (made_same now)
  have second : Condition.equivalent
      (Condition.set t.conditions (g.artifactCondition now result.ns))
      (g.provisionedStatus now rotation result).conditions = true := by
    rw [conditions]
    refine Condition.equivalent_set ?_ (ready_same now)
    rw [Condition.find?_set_of_ne]
    · exact hready
    · simp [readyCondition, artifactCondition, condition, GrantConditionType.text]
  simp only [GrantStatus.equivalent, Condition.equivalent_trans first second, Bool.true_and,
    Bool.and_eq_true, beq_iff_eq]
  exact ⟨⟨⟨by rw [secretRef, ← hname]; rfl, capabilities⟩, last⟩, next⟩

/-- What a status records, one that is as good records too. -/
lemma Recorded.of_equivalent {s : GrantStatus} (h : g.Recorded ns s)
    (same : t.equivalent s = true) : g.Recorded ns t := by
  simp only [GrantStatus.equivalent, Bool.and_eq_true, beq_iff_eq] at same
  obtain ⟨⟨⟨⟨conditions, secretRef⟩, capabilities⟩, -⟩, -⟩ := same
  obtain ⟨c, hc, made⟩ := h.made
  obtain ⟨d, hd, ready⟩ := h.ready
  obtain ⟨c', hc', made'⟩ := Condition.find?_of_equivalent conditions hc
  obtain ⟨d', hd', ready'⟩ := Condition.find?_of_equivalent conditions hd
  exact ⟨⟨c', hc', fun now => Condition.sameState_trans made' (made now)⟩,
    ⟨d', hd', fun now => Condition.sameState_trans ready' (ready now)⟩,
    secretRef.trans h.secretRef, capabilities.trans h.capabilities⟩

end Grant

/-! ## Passes that succeed -/

namespace Deed

/-- Whether a deed counts a rotation. -/
def rotates : Deed → Bool
  | .measure (.rotation _ _) => true
  | _ => false

/-- An artifact was written. -/
def Applied : Deed → Prop
  | .request r (.ok _) => r.applies = true
  | _ => False

lemma Applied.applies {d : Deed} (h : d.Applied) : d.applies = true := by
  cases d with
  | request r o =>
    cases o with
    | ok x => exact h
    | error e => exact absurd h id
  | publish e => exact absurd h id
  | measure m => exact absurd h id

lemma applied_of_applies {d : Deed} (h : d.applies = true) (carried : ¬ d.Fails) : d.Applied := by
  cases d with
  | request r o =>
    cases o with
    | ok x => exact h
    | error e => exact absurd fails_error carried
  | publish e => cases h
  | measure m => cases h

/-- The status that a deed hands over to be written into a grant. -/
def status? : Deed → Option GrantStatus
  | .request (.patchGrantStatus _ t) _ => some t
  | _ => none

lemma Reads.status? {d : Deed} (h : d.Reads) : d.status? = none := by
  cases d with
  | request r o => cases r <;> first | rfl | simp [Reads, Request.reads] at h
  | publish e => rfl
  | measure m => rfl

lemma Reads.not_rotates {d : Deed} (h : d.Reads) : d.rotates = false := by
  cases d with
  | request r o => rfl
  | publish e => rfl
  | measure m => exact absurd h id

end Deed

/-- The number of rotations that are counted. -/
def rotations (ds : List Deed) : Nat := ds.countP Deed.rotates

/-- The status of a grant after some deeds: the last one handed over, if there is any. -/
def statusAfter (before : Option GrantStatus) (ds : List Deed) : Option GrantStatus :=
  (ds.filterMap Deed.status?).getLast?.or before

lemma statusAfter_of_none {before : Option GrantStatus} {ds : List Deed}
    (h : ds.filterMap Deed.status? = []) : statusAfter before ds = before := by
  simp [statusAfter, h]

lemma statusAfter_of_single {before : Option GrantStatus} {ds : List Deed} {t : GrantStatus}
    (h : ds.filterMap Deed.status? = [t]) : statusAfter before ds = some t := by
  simp [statusAfter, h]

/-- An attempt to make an artifact neither hands over a status nor counts a rotation. -/
lemma Strategy.Attempt.plain {s : Strategy} {now : Timestamp} {p : Provider} {g : Grant}
    {ns : String} {ds : List Deed} {r : Except ProvisionFailure ProvisionResult}
    (h : s.Attempt now p g ns ds r) : ∀ d ∈ ds, d.status? = none ∧ d.rotates = false := by
  cases s with
  | directCopy => cases h <;> simp [Deed.status?, Deed.rotates]
  | delegatedSync => cases h <;> simp [Deed.status?, Deed.rotates]

/-- An attempt tells where the artifact stands. -/
lemma Strategy.Attempt.target {s : Strategy} {now : Timestamp} {p : Provider} {g : Grant}
    {ns : String} {ds : List Deed} {result : ProvisionResult}
    (h : s.Attempt now p g ns ds (.ok result)) :
    result.ns = ns ∧ result.name = g.spec.secretName := by
  cases s with
  | directCopy =>
    cases h
    exact ⟨rfl, rfl⟩
  | delegatedSync =>
    cases h
    exact ⟨rfl, rfl⟩

/-- An attempt that fails has written nothing. -/
lemma Strategy.Attempt.not_applied {s : Strategy} {now : Timestamp} {p : Provider} {g : Grant}
    {ns : String} {ds : List Deed} {f : ProvisionFailure}
    (h : s.Attempt now p g ns ds (.error f)) : ∀ d ∈ ds, ¬ d.Applied := by
  cases s with
  | directCopy => cases h <;> simp [Deed.Applied, Request.applies]
  | delegatedSync => cases h <;> simp [Deed.Applied, Request.applies]

namespace GrantPass

variable {now : Timestamp} {g : Grant} {ns : String} {p : Provider} {result : ProvisionResult}
  {look ds : List Deed} {a : Action}

/-- A pass that ends well is one over a grant with a namespace. -/
lemma exists_ns (h : (reconcileGrant now g).run.Runs ds (.ok a)) :
    ∃ ns, g.metadata.ns = some ns := by
  obtain ⟨es, served, -⟩ := Pass.runs_measured.1 h
  cases hns : g.metadata.ns with
  | none => simp [body, hns] at served
  | some ns => exact ⟨ns, rfl⟩

lemma Report.not_applied {s : GrantStatus} {before news after : List Deed}
    {r : Except ReconcileFailure Action} (h : Report g ns s before news after a ds r)
    (quiet : ∀ d, d ∈ before ∨ d ∈ news ∨ d ∈ after → d.Quiet) : ∀ d ∈ ds, ¬ d.Applied := by
  intro d hd applied
  have none_applied := h.not_applies quiet hd
  simp [applied.applies] at none_applied

/-- The deeds of a pass that made the artifact: a status is handed over unless the old one is
as good, and a rotation is counted if one was due. -/
lemma Provisioned.effects (h : Provisioned now g ns p result look ds (.ok a))
    (reads : ∀ d ∈ look, d.Reads) :
    a = Rotation.wake now (rotationInterval? g.spec p.spec) (rotationOf now g p).next ∧
      rotations ds = (if (rotationOf now g p).due then 1 else 0) ∧
      ((g.status.any (·.equivalent (g.provisionedStatus now (rotationOf now g p) result)) = true ∧
          ds.filterMap Deed.status? = []) ∨
        (g.status.any (·.equivalent (g.provisionedStatus now (rotationOf now g p) result)) = false ∧
          ds.filterMap Deed.status? = [g.provisionedStatus now (rotationOf now g p) result])) := by
  have due : rotations (rotationDeeds now g ns p) =
      (if (rotationOf now g p).due then 1 else 0) ∧
      (rotationDeeds now g ns p).filterMap Deed.status? = [] := by
    unfold rotationDeeds
    split <;> exact ⟨rfl, rfl⟩
  have news : rotations (readyNews g result) = 0 ∧
      (readyNews g result).filterMap Deed.status? = [] := by
    unfold readyNews
    split <;> exact ⟨rfl, rfl⟩
  have after : rotations (readyDeeds now g ns p) = 0 ∧
      (readyDeeds now g ns p).filterMap Deed.status? = [] := by
    unfold readyDeeds
    split <;> exact ⟨rfl, rfl⟩
  have looked : rotations look = 0 ∧ look.filterMap Deed.status? = [] := by
    refine ⟨List.countP_eq_zero.2 fun d hd => ?_, List.filterMap_eq_nil_iff.2 fun d hd => ?_⟩
    · simp [(reads d hd).not_rotates]
    · exact (reads d hd).status?
  unfold rotations at due news after looked ⊢
  cases h with
  | kept h =>
    refine ⟨rfl, ?_, .inl ⟨h, ?_⟩⟩
    · simp only [List.countP_append, due, after, looked, Nat.add_zero]
    · simp only [List.filterMap_append, due, after, looked, List.append_nil]
  | written h =>
    refine ⟨rfl, ?_, .inr ⟨h, ?_⟩⟩
    · simp only [List.countP_append, List.countP_cons, due, news, after, looked, Deed.rotates]
      simp
    · simp only [List.filterMap_append, List.filterMap_cons, due, news, after, looked,
        Deed.status?, List.append_nil, List.nil_append]

end GrantPass

/-- A pass at some time, over a version of a grant with a given status, that begins by reading a
provider which declares what `p` does, ends well and has written the artifact. -/
structure SuccessfulPass (g : Grant) (p : Provider) (now : Timestamp)
    (before : Option GrantStatus) (ds : List Deed) (a : Action) : Prop where
  runs : ∃ g', g.SameRequest g' ∧ g'.status = before ∧ (reconcileGrant now g').run.Runs ds (.ok a)
  provider : ∃ p' rest, p'.spec = p.spec ∧
    ds = .request (.getProvider g.spec.provider) (.ok (some p')) :: rest
  applied : ∃ d ∈ ds, d.Applied

namespace SuccessfulPass

variable {g : Grant} {p : Provider} {now : Timestamp} {before : Option GrantStatus}
  {ds : List Deed} {a : Action}

/-- The decision about rotation of a pass over a grant with a given status. -/
def plan (g : Grant) (p : Provider) (now : Timestamp) (before : Option GrantStatus) : Rotation :=
  Rotation.plan now (before.getD {}) (rotationInterval? g.spec p.spec)

/-- A pass that succeeds has made the artifact and told so. -/
lemma course (h : SuccessfulPass g p now before ds a) :
    ∃ (g' : Grant) (p' : Provider) (ns : String) (result : ProvisionResult)
      (look told : List Deed), g.SameRequest g' ∧ g'.status = before ∧
      g'.metadata.ns = some ns ∧ p'.spec = p.spec ∧ result.ns = ns ∧
      result.name = g'.spec.secretName ∧ (∀ d ∈ look, d.Reads) ∧
      GrantPass.Provisioned now g' ns p' result look told (.ok a) ∧
      rotations ds = rotations told ∧
      ds.filterMap Deed.status? = told.filterMap Deed.status? := by
  obtain ⟨g', like, status, runs⟩ := h.runs
  obtain ⟨ds, course, rfl⟩ := GrantPass.course_of_runs runs
  obtain ⟨d, hd, applied⟩ := h.applied
  have applies : d.applies = true := applied.applies
  have hd : d ∈ ds :=
    GrantPass.mem_course hd fun quiet => by simp [quiet.not_applies] at applies
  have reading : ∀ {d : Deed}, d.Reads → d.applies = true → False := by
    intro d reads applies
    simp [reads.quiet.not_applies] at applies
  generalize hr : (Except.ok a : Except ReconcileFailure Action) = r at course
  cases course with
  | homeless _ => exact absurd hd List.not_mem_nil
  | released _ _ _ => exact absurd hd List.not_mem_nil
  | releasing _ _ _ rest => exact absurd (.inl applies) (rest.not_hands hd)
  | claiming _ _ _ o =>
    obtain rfl := List.mem_singleton.1 hd
    cases applies
  | serving hns _ _ rest =>
    cases rest with
    | providerUnread e =>
      obtain rfl := List.mem_singleton.1 hd
      exact absurd applies (reading rfl)
    | namespaceUnread p' e => cases hr
    | providerMissing report =>
      rcases List.mem_cons.1 hd with rfl | hd
      · exact absurd applies (reading rfl)
      · exact absurd applied (report.not_applied (fun _ => GrantPass.quiet_rejection) d hd)
    | refused gate report =>
      rcases List.mem_cons.1 hd with rfl | hd
      · exact absurd applies (reading rfl)
      rcases List.mem_cons.1 hd with rfl | hd
      · exact absurd applies (reading rfl)
      · exact absurd applied (report.not_applied (fun _ => GrantPass.quiet_rejection) d hd)
    | failed gate attempt report =>
      rcases List.mem_cons.1 hd with rfl | hd
      · exact absurd applies (reading rfl)
      rcases List.mem_cons.1 hd with rfl | hd
      · exact absurd applies (reading rfl)
      rcases List.mem_append.1 hd with hd | hd
      · exact absurd applied (attempt.not_applied d hd)
      · exact absurd applied (report.not_applied (fun _ => GrantPass.quiet_failure) d hd)
    | @provisioned p' labels s result made told look _ gate attempt reads report =>
      subst hr
      have declared : p'.spec = p.spec := by
        obtain ⟨p'', rest, declared, begins⟩ := h.provider
        rw [← like.spec] at begins
        have same := (List.cons.inj begins).1
        cases same
        exact declared
      obtain ⟨hrns, hrname⟩ := attempt.target
      refine ⟨g', p', _, result, look, told, like, status, hns, declared, hrns, hrname, reads,
        report, ?_, ?_⟩
      · have attempted : made.countP Deed.rotates = 0 :=
          List.countP_eq_zero.2 fun d hd => by simp [(attempt.plain d hd).2]
        simp [rotations, attempted, Pass.endDeeds, Deed.rotates]
      · have attempted : made.filterMap Deed.status? = [] :=
          List.filterMap_eq_nil_iff.2 fun d hd => (attempt.plain d hd).1
        simp only [List.cons_append, List.append_assoc, List.filterMap_append,
          List.filterMap_cons, List.filterMap_nil, attempted, Deed.status?, Pass.endDeeds,
          List.nil_append, List.append_nil]

lemma home (h : SuccessfulPass g p now before ds a) : ∃ ns, g.metadata.ns = some ns := by
  obtain ⟨g', like, -, runs⟩ := h.runs
  obtain ⟨ns, hns⟩ := GrantPass.exists_ns runs
  exact ⟨ns, like.ns ▸ hns⟩

/-- After a pass that succeeds the status records the artifact and the dates decided on; and
the pass hands over none if the one before did already. -/
lemma recorded (h : SuccessfulPass g p now before ds a) {ns : String}
    (hns : g.metadata.ns = some ns) :
    a = Rotation.wake now (rotationInterval? g.spec p.spec) (plan g p now before).next ∧
      rotations ds = (if (plan g p now before).due then 1 else 0) ∧
      (∃ t, statusAfter before ds = some t ∧ g.Recorded ns t ∧
        t.lastRotation = some (plan g p now before).last ∧
        t.nextRotation = (plan g p now before).next) ∧
      (∀ t, before = some t → g.Recorded ns t →
        t.lastRotation = some (plan g p now before).last →
        t.nextRotation = (plan g p now before).next → ds.filterMap Deed.status? = []) := by
  obtain ⟨g', p', ns', result, look, told, like, status, hns', declared, hrns, hrname, reads,
    report, same_rotations, same_status⟩ := h.course
  obtain rfl : ns' = ns := by
    rw [like.ns, hns] at hns'
    exact (Option.some.inj hns').symm
  have planned : GrantPass.rotationOf now g' p' = plan g p now before := by
    rw [GrantPass.rotationOf, plan, Grant.statusOrEmpty, status, declared, like.spec]
  have interval : rotationInterval? g'.spec p'.spec = rotationInterval? g.spec p.spec := by
    rw [declared, like.spec]
  obtain ⟨action, counted, written⟩ := report.effects reads
  rw [planned, interval] at action
  rw [planned, ← same_rotations] at counted
  rw [planned, status, ← same_status] at written
  have fresh : g.Recorded ns' (g'.provisionedStatus now (plan g p now before) result) :=
    like.recorded.2 (Grant.recorded_provisionedStatus hrns hrname)
  refine ⟨action, counted, ?_, ?_⟩
  · rcases written with ⟨kept, none_written⟩ | ⟨-, written⟩
    · cases before with
      | none => simp at kept
      | some t =>
        have same : t.equivalent
            (g'.provisionedStatus now (plan g p now (some t)) result) = true := by
          simpa using kept
        have agree := same
        simp only [GrantStatus.equivalent, Bool.and_eq_true, beq_iff_eq] at agree
        exact ⟨t, statusAfter_of_none none_written, fresh.of_equivalent same, agree.1.2, agree.2⟩
    · exact ⟨_, statusAfter_of_single written, fresh, rfl, rfl⟩
  · rintro t rfl recorded last next
    rcases written with ⟨-, none_written⟩ | ⟨changed, -⟩
    · exact none_written
    · have same := Grant.equivalent_provisionedStatus now status
        (like.recorded.1 recorded) last next hrns hrname
      simp [same] at changed

/-- A pass over a grant that may be handed a credential can succeed, whenever it takes place and
whatever is known about the grant. -/
lemma possible {o : Objects} {ns : String} (hns : g.metadata.ns = some ns)
    (cleared : o.Cleared g ns p) (key : o.HoldsKey p) (now : Timestamp)
    (before : Option GrantStatus) : ∃ ds a, SuccessfulPass g p now before ds a := by
  let g' : Grant := { g with status := before }
  let o₁ : Objects := { o with grants := o.grants.insert ⟨ns, g'.name⟩ g' }
  have cleared' : o₁.Cleared g' ns p :=
    ⟨cleared.kept, cleared.claimed, cleared.found, cleared.served, cleared.permitted,
      cleared.declared⟩
  have verdict := Objects.verdict_of_cleared cleared' key
  have stored : o₁.grants[(⟨ns, g'.name⟩ : ObjectKey)]? = some g' := by simp [o₁]
  obtain ⟨ds, r, o', runs, allowed, undisturbed⟩ :=
    o₁.exists_undisturbed now (reconcileGrant now g').run
  obtain ⟨ds, course, settled_allowed, rfl⟩ := GrantPass.course_of_allowed runs allowed
  have calm := (undisturbed_append.1 undisturbed).1
  have serving := course.serving_of_claimed hns
    (by simpa [Grant.isDeleting] using cleared'.kept)
    (by simpa [GrantPass.hasFinalizer] using cleared'.claimed)
  obtain ⟨⟨a, rfl⟩, -, applied⟩ := serving.settled stored calm settled_allowed
  refine ⟨_, a, ⟨g', ⟨rfl, rfl, rfl, rfl⟩, rfl, runs⟩, ?_, ?_⟩
  · obtain ⟨found, rest, rfl⟩ := serving.begins
    cases found with
    | error e => exact absurd Deed.fails_error (undisturbed_cons.1 calm).1
    | ok found =>
      have read : o.providers[g.spec.provider]? = found := allowed.1
      obtain rfl : some p = found := cleared.found.symm.trans read
      exact ⟨p, rest ++ Pass.endDeeds .grants (.ok a), rfl, rfl⟩
  · obtain ⟨d, hd⟩ := applied verdict
    have mem : d ∈ ds ∧ d.applies = true := by
      rw [← List.mem_filter, hd]
      exact List.mem_singleton.2 rfl
    exact ⟨d, List.mem_append_left _ mem.1, Deed.applied_of_applies mem.2 (calm d mem.1)⟩

end SuccessfulPass


/-! ## Passes in order -/

/-- The length of an interval in nanoseconds. -/
def Interval.nanos (i : Interval) : Int := i.seconds * 1000000000

/-- The clock shows an instant that has a date, and so has the one an interval later. -/
structure Dated (i : Interval) (s : Timestamp) : Prop where
  ordinary : s.Ordinary
  low : Calendar.minSecond ≤ s.seconds
  high : s.seconds + i.seconds ≤ Calendar.maxSecond

/-- Passes that succeed, the first at `t₀` over a grant without a status, each later than the
one before but not later than that asked for, and over the status that it left: when the latest
one was, the status after it, its deeds, and what it asks for. -/
inductive Punctual (g : Grant) (p : Provider) (i : Interval) (t₀ : Timestamp) :
    Timestamp → Option GrantStatus → List Deed → Action → Prop where
  | first {ds : List Deed} {a : Action} (clock : Dated i t₀)
      (pass : SuccessfulPass g p t₀ none ds a) :
      Punctual g p i t₀ t₀ (statusAfter none ds) ds a
  | next {s s' : Timestamp} {stored : Option GrantStatus} {ds ds' : List Deed} {a a' : Action}
      {wait : Delay} (passes : Punctual g p i t₀ s stored ds a) (asked : a = .requeue wait)
      (clock : Dated i s') (later : s < s') (in_time : s'.since s ≤ wait.nanos)
      (pass : SuccessfulPass g p s' stored ds' a') :
      Punctual g p i t₀ s' (statusAfter stored ds') ds' a'

/-- The invariant: after a pass at `s` the status records the artifact; the last rotation was
`k` intervals after `t₀` and the next one is due an interval later, which is after `s`; and the
pass asks to be followed by one in time for it. -/
structure Scheduled (g : Grant) (ns : String) (i : Interval) (t₀ s : Timestamp)
    (stored : Option GrantStatus) (a : Action) (t : GrantStatus) (last next : Timestamp)
    (k : Nat) : Prop where
  stored_eq : stored = some t
  recorded : g.Recorded ns t
  last_eq : t.lastRotation = some last
  next_eq : t.nextRotation = some next
  dated : Dated i last
  step : last.addSeconds? i.seconds = some next
  regular : last.toNanos = t₀.toNanos + k * i.nanos
  elapsed : last.toNanos ≤ s.toNanos
  pending : s.toNanos < next.toNanos
  asked : a = Rotation.wake s (some i) (some next)

/-- The rotation after an instant has a date. -/
lemma Dated.next {i : Interval} {s : Timestamp} (h : Dated i s) (hi : 0 < i.seconds) :
    ∃ c, s.addSeconds? i.seconds = some c ∧ c.Ordinary ∧ c.toNanos = s.toNanos + i.nanos := by
  obtain ⟨c, added, ordinary, -, sum⟩ := Timestamp.addSeconds?_eq h.ordinary hi h.low h.high
  exact ⟨c, added, ordinary, sum⟩

lemma Interval.nanos_pos {i : Interval} (hi : 0 < i.seconds) : 0 < i.nanos := by
  unfold Interval.nanos
  omega

namespace Scheduled

variable {g : Grant} {p : Provider} {ns : String} {i : Interval} {t₀ s s' : Timestamp}
  {stored : Option GrantStatus} {ds : List Deed} {a : Action} {t : GrantStatus}
  {last next : Timestamp} {k : Nat} {wait : Delay}

/-- The first pass starts the schedule; it counts no rotation. -/
lemma first (hns : g.metadata.ns = some ns) (hi : rotationInterval? g.spec p.spec = some i)
    (positive : 0 < i.seconds) (clock : Dated i t₀) (pass : SuccessfulPass g p t₀ none ds a) :
    (∃ t next, Scheduled g ns i t₀ t₀ (statusAfter none ds) a t t₀ next 0) ∧
      rotations ds = 0 := by
  obtain ⟨asked, counted, ⟨t, stored, recorded, last_eq, next_eq⟩, -⟩ := pass.recorded hns
  obtain ⟨next, added, ordinary, sum⟩ := clock.next positive
  have started : SuccessfulPass.plan g p t₀ none = { due := false, last := t₀, next } := by
    simp [SuccessfulPass.plan, Rotation.plan, Rotation.isDue, Rotation.lastAt, Rotation.nextAfter,
      hi, added]
  rw [started] at asked counted last_eq next_eq
  have long := Interval.nanos_pos positive
  refine ⟨⟨t, next, ?_⟩, by simpa using counted⟩
  exact {
    stored_eq := stored
    recorded := recorded
    last_eq := last_eq
    next_eq := next_eq
    dated := clock
    step := added
    regular := by simp
    elapsed := Int.le_refl _
    pending := by omega
    asked := by rw [asked, hi] }

/-- A pass that asks for another asks for it in time for the next rotation. -/
lemma in_time (h : Scheduled g ns i t₀ s stored (.requeue wait) t last next k)
    (positive : 0 < i.seconds) (clock : s.Ordinary) (clock' : s'.Ordinary)
    (soon : s'.since s ≤ wait.nanos) : s'.toNanos ≤ next.toNanos := by
  obtain ⟨c, added, ordinary, -⟩ := h.dated.next positive
  obtain rfl : c = next := Option.some.inj (added.symm.trans h.step)
  have asked := h.asked
  simp only [Rotation.wake, Action.requeue.injEq] at asked
  -- of the three waits that are compared, the time left until the rotation is what counts
  have bound : wait.nanos ≤ (c.since s).toNat := by
    rw [asked]
    exact Nat.le_trans (Nat.min_le_left _ _) (Nat.min_le_left _ _)
  rw [Timestamp.since_eq ordinary clock] at bound
  rw [Timestamp.since_eq clock' clock] at soon
  have pending := h.pending
  omega

/-- One more pass in time keeps the schedule.  It comes upon the next rotation, which it counts
and enters, or before it, and then hands over no status. -/
lemma step_pass (h : Scheduled g ns i t₀ s stored (.requeue wait) t last next k)
    (hns : g.metadata.ns = some ns) (hi : rotationInterval? g.spec p.spec = some i)
    (positive : 0 < i.seconds) (clock : Dated i s') (before : s.Ordinary) (later : s < s')
    (soon : s'.since s ≤ wait.nanos) (pass : SuccessfulPass g p s' stored ds a) :
    (s' = next ∧ rotations ds = 1 ∧
      ∃ t' next', Scheduled g ns i t₀ s' (statusAfter stored ds) a t' s' next' (k + 1)) ∨
    (s'.toNanos < next.toNanos ∧ rotations ds = 0 ∧ ds.filterMap Deed.status? = [] ∧
      Scheduled g ns i t₀ s' (statusAfter stored ds) a t last next k) := by
  have at_most := h.in_time positive before clock.ordinary soon
  obtain ⟨c, added, ordinary, sum⟩ := h.dated.next positive
  obtain rfl : c = next := Option.some.inj (added.symm.trans h.step)
  have after : s.toNanos < s'.toNanos := by
    have := (Timestamp.le_iff_toNanos clock.ordinary before).not.1 later
    omega
  obtain ⟨asked, counted, ⟨t', stored', recorded', last_eq', next_eq'⟩, quiet⟩ :=
    pass.recorded hns
  have elapsed := h.elapsed
  rcases Int.lt_or_eq_of_le at_most with early | exact_time
  -- before its date the rotation is not due, and the status says already what it is to say
  · have not_due : ¬ c ≤ s' := by
      rw [Timestamp.le_iff_toNanos ordinary clock.ordinary]
      omega
    have planned : SuccessfulPass.plan g p s' stored = { due := false, last, next := some c } := by
      simp [SuccessfulPass.plan, Rotation.plan, Rotation.isDue, Rotation.lastAt,
        Rotation.nextAfter, hi, h.stored_eq, h.last_eq, h.next_eq, not_due, h.step]
    rw [planned] at asked counted
    have none_written : ds.filterMap Deed.status? = [] :=
      quiet t h.stored_eq h.recorded (by rw [planned]; exact h.last_eq)
        (by rw [planned]; exact h.next_eq)
    refine .inr ⟨early, by simpa using counted, none_written, ?_⟩
    exact { h with
      stored_eq := by rw [statusAfter_of_none none_written, h.stored_eq]
      elapsed := by omega
      pending := early
      asked := by rw [asked, hi] }
  -- the pass comes upon the date itself, which becomes that of the last rotation
  · obtain rfl : s' = c := Timestamp.toNanos_injective clock.ordinary ordinary exact_time
    have due : s' ≤ s' := (Timestamp.le_iff_toNanos ordinary ordinary).2 (Int.le_refl _)
    obtain ⟨next', added', ordinary', sum'⟩ := clock.next positive
    have planned : SuccessfulPass.plan g p s' stored =
        { due := true, last := s', next := some next' } := by
      simp [SuccessfulPass.plan, Rotation.plan, Rotation.isDue, Rotation.lastAt,
        Rotation.nextAfter, hi, h.stored_eq, h.last_eq, h.next_eq, due, added']
    rw [planned] at asked counted last_eq' next_eq'
    have long := Interval.nanos_pos positive
    refine .inl ⟨rfl, by simpa using counted, t', next', ?_⟩
    exact {
      stored_eq := stored'
      recorded := recorded'
      last_eq := last_eq'
      next_eq := next_eq'
      dated := clock
      step := added'
      regular := by
        rw [sum, h.regular]
        push_cast
        rw [Int.add_mul, Int.one_mul]
        omega
      elapsed := Int.le_refl _
      pending := by omega
      asked := by rw [asked, hi] }

end Scheduled

/-- Every pass of a punctual sequence keeps the schedule: it stands exactly at a rotation, the
first one apart counting it, or between two and hands over no status. -/
lemma Punctual.scheduled {g : Grant} {p : Provider} {ns : String} {i : Interval}
    {t₀ s : Timestamp} {stored : Option GrantStatus} {ds : List Deed} {a : Action}
    (h : Punctual g p i t₀ s stored ds a) (hns : g.metadata.ns = some ns)
    (hi : rotationInterval? g.spec p.spec = some i) (positive : 0 < i.seconds) :
    s.Ordinary ∧ ∃ t last next k, Scheduled g ns i t₀ s stored a t last next k ∧
      ((s = last ∧ rotations ds = if k = 0 then 0 else 1) ∨
        (last.toNanos < s.toNanos ∧ rotations ds = 0 ∧ ds.filterMap Deed.status? = [])) := by
  induction h with
  | first clock pass =>
    obtain ⟨⟨t, next, started⟩, counted⟩ := Scheduled.first hns hi positive clock pass
    exact ⟨clock.ordinary, t, t₀, next, 0, started, .inl ⟨rfl, by simpa using counted⟩⟩
  | @next _ s' _ _ _ _ _ _ _ asked clock later in_time pass ih =>
    obtain ⟨before, t, last, next, k, scheduled, -⟩ := ih
    subst asked
    rcases scheduled.step_pass hns hi positive clock before later in_time pass with
      ⟨-, counted, t', next', scheduled'⟩ | ⟨early, counted, none_written, scheduled'⟩
    · exact ⟨clock.ordinary, t', s', next', k + 1, scheduled', .inl ⟨rfl, by simpa using counted⟩⟩
    · refine ⟨clock.ordinary, t, last, next, k, scheduled', .inr ⟨?_, counted, none_written⟩⟩
      have elapsed := scheduled.elapsed
      have after := (Timestamp.le_iff_toNanos clock.ordinary before).not.1 later
      omega

lemma rotationInterval?_pos {g : GrantSpec} {p : ProviderSpec} {i : Interval}
    (h : rotationInterval? g p = some i) : 0 < i.seconds := by
  rcases Option.or_eq_some_iff.1 h with h | ⟨-, h⟩
  · exact Interval.parse?_pos h
  · exact Interval.parse?_pos h

lemma Punctual.ns {g : Grant} {p : Provider} {i : Interval} {t₀ s : Timestamp}
    {stored : Option GrantStatus} {ds : List Deed} {a : Action}
    (h : Punctual g p i t₀ s stored ds a) : ∃ ns, g.metadata.ns = some ns := by
  cases h with
  | first _ pass => exact pass.home
  | next _ _ _ _ _ pass => exact pass.home

/-- Rotations happen on schedule.  After the pass at `s` of a punctual sequence that began at
`t₀`, the last rotation recorded is the latest whole number of intervals after `t₀` that is not
after `s`, and the next one is due an interval later; the pass counts one rotation if it takes
place a positive number of intervals after `t₀`, and none otherwise; and if it takes place
between two rotations, it hands over no status. -/
theorem rotations_on_schedule {g : Grant} {p : Provider} {i : Interval} {t₀ s : Timestamp}
    {stored : Option GrantStatus} {ds : List Deed} {a : Action}
    (hi : rotationInterval? g.spec p.spec = some i) (h : Punctual g p i t₀ s stored ds a) :
    (∃ t last next, stored = some t ∧ t.lastRotation = some last ∧ t.nextRotation = some next ∧
      last.toNanos = t₀.toNanos + i.nanos * ((s.toNanos - t₀.toNanos) / i.nanos) ∧
      next.toNanos = last.toNanos + i.nanos ∧ s.toNanos < next.toNanos) ∧
    ((∃ k : Nat, 1 ≤ k ∧ s.toNanos = t₀.toNanos + k * i.nanos) → rotations ds = 1) ∧
    ((¬ ∃ k : Nat, 1 ≤ k ∧ s.toNanos = t₀.toNanos + k * i.nanos) → rotations ds = 0) ∧
    ((∀ k : Nat, s.toNanos ≠ t₀.toNanos + k * i.nanos) →
      ∀ key t o, .request (.patchGrantStatus key t) o ∉ ds) := by
  obtain ⟨ns, hns⟩ := h.ns
  have positive := rotationInterval?_pos hi
  have long := Interval.nanos_pos positive
  obtain ⟨ordinary, t, last, next, k, scheduled, pass⟩ := h.scheduled hns hi positive
  obtain ⟨c, added, -, sum⟩ := scheduled.dated.next positive
  obtain rfl : c = next := Option.some.inj (added.symm.trans scheduled.step)
  have regular := scheduled.regular
  have elapsed := scheduled.elapsed
  have pending := scheduled.pending
  have quotient : (s.toNanos - t₀.toNanos) / i.nanos = k := by
    rw [Int.ediv_eq_iff_of_pos long]
    constructor <;> omega
  -- a pass that stands at a multiple of the interval stands at that of its last rotation
  have number : ∀ m : Nat, s.toNanos = t₀.toNanos + m * i.nanos → m = k := by
    intro m hm
    have exact_quotient : (s.toNanos - t₀.toNanos) / i.nanos = m := by
      rw [Int.ediv_eq_iff_of_pos long]
      constructor <;> omega
    omega
  refine ⟨⟨t, last, c, scheduled.stored_eq, scheduled.last_eq, scheduled.next_eq, ?_, sum,
    pending⟩, ?_, ?_, ?_⟩
  · rw [quotient, regular, Int.mul_comm]
  · rintro ⟨m, hm, at_m⟩
    obtain rfl := number m at_m
    rcases pass with ⟨rfl, counted⟩ | ⟨late, -⟩
    · rw [counted, if_neg (by omega)]
    · omega
  · intro none_due
    rcases pass with ⟨rfl, counted⟩ | ⟨-, counted, -⟩
    · rw [counted, if_pos]
      by_contra hk
      exact none_due ⟨k, by omega, regular⟩
    · exact counted
  · intro between key status o hd
    rcases pass with ⟨rfl, -⟩ | ⟨-, -, none_written⟩
    · exact between k regular
    · have written := List.filterMap_eq_nil_iff.1 none_written _ hd
      cases written

namespace Sample

/-- The grant of the small cluster, with hourly rotations. -/
def rotating : Grant := { grant with spec.rotation := some { interval := some "1h" } }

/-- An hour after the beginning of 1970. -/
def hour : Timestamp := { Timestamp.epoch with seconds := 3600 }

lemma interval_rotating : rotationInterval? rotating.spec provider.spec = some ⟨3600⟩ := by
  decide

lemma cleared_rotating : objects.Cleared rotating "team" provider :=
  ⟨cleared.kept, cleared.claimed, cleared.found, cleared.served, cleared.permitted,
    cleared.declared⟩

end Sample

/-- Two passes over the grant of the small cluster, an hour apart: the second one counts a
rotation. -/
theorem sample_rotations_on_schedule :
    rotationInterval? Sample.rotating.spec Sample.provider.spec = some ⟨3600⟩ ∧
      ∃ stored ds a,
        Punctual Sample.rotating Sample.provider ⟨3600⟩ .epoch Sample.hour stored ds a ∧
          rotations ds = 1 := by
  refine ⟨Sample.interval_rotating, ?_⟩
  have dated : Dated ⟨3600⟩ .epoch ∧ Dated ⟨3600⟩ Sample.hour :=
    ⟨⟨by decide, by decide, by decide⟩, ⟨by decide, by decide, by decide⟩⟩
  obtain ⟨ds, a, pass⟩ := SuccessfulPass.possible rfl Sample.cleared_rotating Sample.holdsKey
    .epoch none
  obtain ⟨ds', a', pass'⟩ := SuccessfulPass.possible rfl Sample.cleared_rotating Sample.holdsKey
    Sample.hour (statusAfter none ds)
  have asked : a = .requeue ⟨3600000000000⟩ := by
    rw [(pass.recorded rfl).1, SuccessfulPass.plan, Sample.interval_rotating]
    decide
  have passes := (Punctual.first dated.1 pass).next asked dated.2 (by decide) (by decide) pass'
  refine ⟨_, ds', a', passes, ?_⟩
  exact (rotations_on_schedule Sample.interval_rotating passes).2.1 ⟨1, Nat.le_refl 1, by decide⟩

end CredentialOperator
