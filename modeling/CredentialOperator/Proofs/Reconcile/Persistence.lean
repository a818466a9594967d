import CredentialOperator.Proofs.Grant.StoredStatus
import CredentialOperator.Proofs.Http.Messages
import CredentialOperator.Proofs.Reconcile.Gates

/-!
# What becomes of the statuses that passes write

A pass over a grant hands its status to the cluster as a merge patch, which is silent about the
parts that the status does not have.  So the stored grant is read as having the new status laid
over the one before.  That is not the status which the pass computed when the schedule of
rotations has gone, or the capabilities: the old ones stay.
-/

namespace CredentialOperator

/-! ## Statuses that can be stored -/

namespace Condition

lemma Storable.supersede {old new : Condition} (hold : old.Storable) (hnew : new.Storable) :
    (supersede old new).Storable := by
  unfold Condition.supersede
  split
  · exact ⟨hold.time, hnew.generation⟩
  · exact hnew

lemma Storable.set {conditions : List Condition} {new : Condition}
    (h : ∀ c ∈ conditions, c.Storable) (hnew : new.Storable) :
    ∀ c ∈ set conditions new, c.Storable := by
  induction conditions with
  | nil => simpa [Condition.set] using hnew
  | cons old rest ih =>
    have first : old.Storable := h old (by simp)
    have others : ∀ c ∈ rest, c.Storable := fun c hc => h c (by simp [hc])
    unfold Condition.set
    split
    · intro c hc
      rcases List.mem_cons.1 hc with rfl | hc
      · exact first.supersede hnew
      · exact others c hc
    · intro c hc
      rcases List.mem_cons.1 hc with rfl | hc
      · exact first
      · exact ih others c hc

end Condition

namespace Grant

variable {g : Grant} {now : Timestamp}

/-- Entering a condition leaves a status storable. -/
lemma storable_enter {type : GrantConditionType} {holds : Bool} {reason : GrantReason}
    {message : String} {s : GrantStatus} (clock : now.OnCalendar)
    (fits : ∀ n, g.metadata.generation = some n → FitsInt64 n) (hs : s.Storable) :
    (g.enter now type holds reason message s).Storable where
  conditions := Condition.Storable.set hs.conditions ⟨clock, fits⟩
  last := hs.last
  next := hs.next

/-- The dates of a schedule have texts. -/
lemma onCalendar_plan {s : GrantStatus} (interval : Option Interval) (clock : now.OnCalendar)
    (hs : s.Storable) :
    (Rotation.plan now s interval).last.OnCalendar ∧
      ∀ t, (Rotation.plan now s interval).next = some t → t.OnCalendar := by
  have last : (Rotation.lastAt now s).OnCalendar := by
    unfold Rotation.lastAt
    split
    next last h =>
      split
      · exact clock
      · exact hs.last last h
    next => exact clock
  refine ⟨last, ?_⟩
  intro t ht
  obtain ⟨i, -, added⟩ := Option.bind_eq_some_iff.1 ht
  exact Timestamp.onCalendar_of_addSeconds? last added

end Grant

namespace GrantPass

variable {now : Timestamp} {g : Grant} {ns : String} {ds : List Deed}
  {r : Except ReconcileFailure Action} {s : GrantStatus}

/-- The statuses that a pass which does some deeds can compute. -/
inductive Computes (now : Timestamp) (g : Grant) (ds : List Deed) : GrantStatus → Prop where
  /-- That of a grant that was refused. -/
  | rejected (rej : Rejection) : Computes now g ds (g.rejectedStatus now rej)
  /-- That of a grant whose artifact could not be made. -/
  | failed (message : String) : Computes now g ds (g.failedStatus now message)
  /-- That of a grant whose artifact was made. -/
  | provisioned {p : Provider} (result : ProvisionResult)
      (found : Deed.request (.getProvider g.spec.provider) (.ok (some p)) ∈ ds) :
      Computes now g ds (g.provisionedStatus now (rotationOf now g p) result)

/-- Computed statuses are storable. -/
lemma Computes.storable (h : Computes now g ds s) (clock : now.OnCalendar)
    (fits : ∀ n, g.metadata.generation = some n → FitsInt64 n)
    (before : g.statusOrEmpty.Storable) : s.Storable := by
  cases h with
  | rejected rej => exact Grant.storable_enter clock fits before
  | failed message =>
    exact Grant.storable_enter clock fits (Grant.storable_enter clock fits before)
  | @provisioned p result found =>
    refine Grant.storable_enter clock fits (Grant.storable_enter clock fits ?_)
    obtain ⟨last, next⟩ := Grant.onCalendar_plan (rotationInterval? g.spec p.spec) clock before
    refine ⟨before.conditions, ?_, next⟩
    rintro t ⟨⟩
    exact last

/-- A computed status has conditions, and loses neither the artifact nor the date of the last
rotation. -/
lemma Computes.present (h : Computes now g ds s) :
    s.conditions ≠ [] ∧ (s.secretRef = none → g.statusOrEmpty.secretRef = none) ∧
      (s.lastRotation = none → g.statusOrEmpty.lastRotation = none) := by
  cases h with
  | rejected rej => exact ⟨Condition.set_ne_nil _ _, id, id⟩
  | failed message => exact ⟨Condition.set_ne_nil _ _, id, id⟩
  | provisioned result found => exact ⟨Condition.set_ne_nil _ _, nofun, nofun⟩

/-- More deeds at the end make no difference to what can be computed. -/
lemma Computes.append {es : List Deed} (h : Computes now g ds s) : Computes now g (ds ++ es) s := by
  cases h with
  | rejected rej => exact .rejected rej
  | failed message => exact .failed message
  | provisioned result found => exact .provisioned result (List.mem_append_left es found)

/-! ## Statuses that are handed over -/

lemma Report.handed {t : GrantStatus} {before news after : List Deed} {a : Action}
    {key : ObjectKey} {o : Except ApiFailure Unit} (h : Report g ns s before news after a ds r)
    (quiet : ∀ d, d ∈ before ∨ d ∈ news ∨ d ∈ after → d.Quiet)
    (hd : Deed.request (.patchGrantStatus key t) o ∈ ds) : t = s := by
  rcases h.mem hd with hd | ⟨o', same⟩
  · have calm := quiet _ hd
    simp [Deed.Quiet, Request.reads] at calm
  · cases same
    rfl

/-- What is handed over while a grant is served was computed. -/
lemma Serving.computes {key : ObjectKey} {o : Except ApiFailure Unit}
    (h : Serving now g ns ds r) (hd : Deed.request (.patchGrantStatus key s) o ∈ ds) :
    Computes now g ds s := by
  cases h with
  | providerUnread e => simp at hd
  | namespaceUnread p e => simp at hd
  | providerMissing report =>
    have hd := (List.mem_cons.1 hd).resolve_left nofun
    exact report.handed (fun _ => quiet_rejection) hd ▸ .rejected _
  | refused gate report =>
    have hd := (List.mem_cons.1 ((List.mem_cons.1 hd).resolve_left nofun)).resolve_left nofun
    exact report.handed (fun _ => quiet_rejection) hd ▸ .rejected _
  | failed gate attempt report =>
    have hd := (List.mem_cons.1 ((List.mem_cons.1 hd).resolve_left nofun)).resolve_left nofun
    rcases List.mem_append.1 hd with hd | hd
    · exact absurd rfl (attempt.not_writes hd)
    · exact report.handed (fun _ => quiet_failure) hd ▸ .failed _
  | provisioned gate attempt reads report =>
    have hd := (List.mem_cons.1 ((List.mem_cons.1 hd).resolve_left nofun)).resolve_left nofun
    rcases List.mem_append.1 hd with hd | hd
    · exact absurd rfl (attempt.not_writes hd)
    · exact report.handed (fun _ => quiet_provisioned reads) hd ▸
        .provisioned _ (List.mem_cons_self ..)

/-- Releasing a grant leaves its status alone. -/
lemma Releasing.not_writes {key : ObjectKey} {o : Except ApiFailure Unit}
    (h : Releasing g ns ds r) : Deed.request (.patchGrantStatus key s) o ∉ ds := by
  have removal : ∀ (t : Strategy) (place : ObjectKey) (o' : Except ApiFailure Bool),
      Deed.request (.patchGrantStatus key s) o ≠ t.removal place o' := by
    rintro (_ | _) place o' ⟨⟩
  cases h with
  | providerUnread e => simp
  | unserved hs => simp
  | unremoved hs context e => simp [removal]
  | removed hs found o' => simp [removal]

/-- What a pass hands over was computed. -/
lemma Course.computes {key : ObjectKey} {o : Except ApiFailure Unit} (h : Course now g ds r)
    (hd : Deed.request (.patchGrantStatus key s) o ∈ ds) : Computes now g ds s := by
  cases h with
  | homeless hns => exact absurd hd List.not_mem_nil
  | released hns deleted unclaimed => exact absurd hd List.not_mem_nil
  | releasing hns deleted claimed rest => exact absurd hd rest.not_writes
  | claiming hns kept unclaimed o' => simp at hd
  | serving hns kept claimed rest => exact rest.computes hd

lemma computes_of_runs {key : ObjectKey} {o : Except ApiFailure Unit}
    (h : (reconcileGrant now g).run.Runs ds r)
    (hd : Deed.request (.patchGrantStatus key s) o ∈ ds) : Computes now g ds s := by
  obtain ⟨ds, course, rfl⟩ := course_of_runs h
  have hd := mem_course hd (by simp [Deed.Quiet, Request.reads])
  exact (course.computes hd).append

end GrantPass

namespace GrantStatus

/-- Nothing shows through a status that has every part that the one below has. -/
lemma laidOver_eq_iff {s prior : GrantStatus} :
    s.laidOver prior = s ↔
      (s.conditions = [] → prior.conditions = []) ∧
      (s.secretRef = none → prior.secretRef = none) ∧
      (s.lastRotation = none → prior.lastRotation = none) ∧
      (s.nextRotation = none → prior.nextRotation = none) ∧
      (s.grantedCapabilities = [] → prior.grantedCapabilities = []) := by
  have list : ∀ {α : Type} [DecidableEq α] (xs ys : List α),
      (if xs = [] then ys else xs) = xs ↔ (xs = [] → ys = []) := by
    intro α _ xs ys
    by_cases h : xs = [] <;> simp [h]
  have part : ∀ {α : Type} (a b : Option α), a.or b = a ↔ (a = none → b = none) := by
    intro α a b
    cases a <;> simp
  obtain ⟨conditions, secretRef, last, next, granted⟩ := s
  simp only [laidOver, GrantStatus.mk.injEq, part, list]

end GrantStatus

/-- Whoever merges what a pass hands over finds the computed status laid over the one before. -/
lemma Grant.merged_of_handed {stored : Json} {g : Grant} {now : Timestamp} {ds : List Deed}
    {r : Except ReconcileFailure Action} {key : ObjectKey} {s : GrantStatus}
    {o : Except ApiFailure Unit} {m : HttpMessage} (read : Grant.ofJson? stored = some g)
    (clock : now.OnCalendar) (runs : (reconcileGrant now g).run.Runs ds r)
    (handed : Deed.request (.patchGrantStatus key s) o ∈ ds)
    (sent : (Request.patchGrantStatus key s).converse.run.Sends m) :
    Grant.ofJson? (m.mergedInto stored) =
      some { g with status := some (s.laidOver g.statusOrEmpty) } := by
  have computed := GrantPass.computes_of_runs runs handed
  have storable := computed.storable clock (Grant.fits_of_ofJson? read)
    (Grant.storable_of_ofJson? read)
  obtain ⟨-, sent⟩ := Request.sends_patchGrantStatus.1 sent
  rw [HttpMessage.mergedInto_of_sent? sent, HttpMessage.mergedInto_merging]
  exact Grant.ofJson?_merge read storable

/-- A pass over a stored grant hands over its status as merge patches.  Whoever merges one finds
the status laid over the one before.  This is the status that the pass computed exactly if it
has a next rotation where the one before has one, and capabilities where that has some; and if
it is not, then the pass has made the artifact, and so decided on both. -/
theorem status_stored_iff {stored : Json} {g : Grant} {now : Timestamp} {ds : List Deed}
    {r : Except ReconcileFailure Action} {key : ObjectKey} {s : GrantStatus}
    {o : Except ApiFailure Unit} {m : HttpMessage} (read : Grant.ofJson? stored = some g)
    (clock : now.OnCalendar) (runs : (reconcileGrant now g).run.Runs ds r)
    (handed : Deed.request (.patchGrantStatus key s) o ∈ ds)
    (sent : (Request.patchGrantStatus key s).converse.run.Sends m) :
    Grant.ofJson? (m.mergedInto stored) =
        some { g with status := some (s.laidOver g.statusOrEmpty) } ∧
      (Grant.ofJson? (m.mergedInto stored) = some { g with status := some s } ↔
        (s.nextRotation = none → g.statusOrEmpty.nextRotation = none) ∧
        (s.grantedCapabilities = [] → g.statusOrEmpty.grantedCapabilities = [])) ∧
      (Grant.ofJson? (m.mergedInto stored) ≠ some { g with status := some s } →
        ∃ p, Deed.request (.getProvider g.spec.provider) (.ok (some p)) ∈ ds ∧
          s.nextRotation = (GrantPass.rotationOf now g p).next ∧
          s.grantedCapabilities = g.spec.capabilities) := by
  have computed := GrantPass.computes_of_runs runs handed
  obtain ⟨conditions, secretRef, last⟩ := computed.present
  have faithful : Grant.ofJson? (m.mergedInto stored) = some { g with status := some s } ↔
      (s.nextRotation = none → g.statusOrEmpty.nextRotation = none) ∧
        (s.grantedCapabilities = [] → g.statusOrEmpty.grantedCapabilities = []) := by
    rw [Grant.merged_of_handed read clock runs handed sent]
    simp only [Option.some.injEq, Grant.mk.injEq, true_and, GrantStatus.laidOver_eq_iff]
    constructor
    · rintro ⟨-, -, -, next, granted⟩
      exact ⟨next, granted⟩
    · rintro ⟨next, granted⟩
      exact ⟨fun empty => absurd empty conditions, secretRef, last, next, granted⟩
  refine ⟨Grant.merged_of_handed read clock runs handed sent, faithful, ?_⟩
  intro unfaithful
  -- refusals and failures compute the status from the old one, of which they lose nothing
  cases computed with
  | rejected rej => exact absurd (faithful.2 ⟨id, id⟩) unfaithful
  | failed message => exact absurd (faithful.2 ⟨id, id⟩) unfaithful
  | @provisioned p result found => exact ⟨p, found, rfl, rfl⟩

namespace Sample

/-- The grant of the small cluster, which was rotated before its request was edited. -/
def lapsed : Grant :=
  { grant with status := some { lastRotation := some .epoch, nextRotation := some .epoch } }

/-- An undisturbed pass over it in the small cluster hands over that no rotation is due. -/
lemma hands_lapse : ∃ ds r s, (reconcileGrant .epoch lapsed).run.Runs ds r ∧
    Deed.request (.patchGrantStatus grant.key s) (.ok ()) ∈ ds ∧ s.nextRotation = none := by
  obtain ⟨ds, r, o', runs, allowed, undisturbed⟩ :=
    objects.exists_undisturbed .epoch (reconcileGrant .epoch lapsed).run
  obtain ⟨ds, course, settled_allowed, rfl⟩ := GrantPass.course_of_allowed runs allowed
  have cleared_lapsed : objects.Cleared lapsed "team" provider :=
    ⟨cleared.kept, cleared.claimed, cleared.found, cleared.served, cleared.permitted,
      cleared.declared⟩
  have serving := course.serving_of_claimed at_home rfl (by decide)
  obtain ⟨result, look, told, -, report, told_in, calm⟩ :=
    serving.made_of_cleared cleared_lapsed holdsKey (undisturbed_append.1 undisturbed).1
      settled_allowed
  let s := lapsed.provisionedStatus .epoch (GrantPass.rotationOf .epoch lapsed provider) result
  have lapses : s.nextRotation = none :=
    show (GrantPass.rotationOf .epoch lapsed provider).next = none by decide
  refine ⟨_, r, s, runs, List.mem_append_left _ (told_in _ ?_), lapses⟩
  cases report with
  | kept h =>
    have same : lapsed.statusOrEmpty.equivalent s = true := h
    simp only [GrantStatus.equivalent, Bool.and_eq_true, beq_iff_eq, lapses] at same
    cases same.2
  | unwritten h e =>
    have failed := (undisturbed_append.1 calm).2
    exact absurd Deed.fails_error (undisturbed_cons.1 failed).1
  | written h => exact List.mem_append_right _ (List.mem_cons_self ..)

/-- The message that carries a status of the grant. -/
def statusMessage (s : GrantStatus) : HttpMessage :=
  .merging (Paths.grant grant.key ++ "/status") (statusPatch s.toJson)

lemma sends_statusMessage (s : GrantStatus) :
    (Request.patchGrantStatus grant.key s).converse.run.Sends (statusMessage s) :=
  have plain : (Paths.grant grant.key ++ "/status").toList.all Paths.isPathChar = true := by decide
  Request.sends_patchGrantStatus.2 ⟨by decide, HttpMessage.sent?_of_plain plain⟩

end Sample

/-- The small cluster keeps the date of a rotation that is no longer due. -/
theorem lapsed_rotation_stays :
    ∃ ds r s o, Grant.ofJson? Sample.lapsed.toJson = some Sample.lapsed ∧
      Timestamp.epoch.OnCalendar ∧ (reconcileGrant .epoch Sample.lapsed).run.Runs ds r ∧
      Deed.request (.patchGrantStatus Sample.grant.key s) o ∈ ds ∧ s.nextRotation = none ∧
      (Request.patchGrantStatus Sample.grant.key s).converse.run.Sends (Sample.statusMessage s) ∧
      Grant.ofJson? ((Sample.statusMessage s).mergedInto Sample.lapsed.toJson) ≠
        some { Sample.lapsed with status := some s } := by
  have read : Grant.ofJson? Sample.lapsed.toJson = some Sample.lapsed := by rfl
  have clock : Timestamp.epoch.OnCalendar := by decide
  obtain ⟨ds, r, s, runs, handed, lapses⟩ := Sample.hands_lapse
  have sent := Sample.sends_statusMessage s
  refine ⟨ds, r, s, _, read, clock, runs, handed, lapses, sent, ?_⟩
  intro same
  have gone := ((status_stored_iff read clock runs handed sent).2.1.1 same).1 lapses
  cases gone

/-- It is not so that a stored grant is read with the status that the pass computed. -/
theorem status_not_stored :
    ¬ ∀ stored g now ds r key s o m, Grant.ofJson? stored = some g → now.OnCalendar →
      (reconcileGrant now g).run.Runs ds r →
      Deed.request (.patchGrantStatus key s) o ∈ ds →
      (Request.patchGrantStatus key s).converse.run.Sends m →
      Grant.ofJson? (m.mergedInto stored) = some { g with status := some s } := by
  intro faithful
  have read : Grant.ofJson? Sample.lapsed.toJson = some Sample.lapsed := by rfl
  have clock : Timestamp.epoch.OnCalendar := by decide
  obtain ⟨ds, r, s, runs, handed, lapses⟩ := Sample.hands_lapse
  have sent := Sample.sends_statusMessage s
  have merged := Grant.merged_of_handed read clock runs handed sent
  -- were it so, the new status would have to be laid over the old one without a trace of it
  have same := (faithful _ _ _ _ _ _ s _ _ read clock runs handed sent).symm.trans merged
  simp only [Option.some.injEq, Grant.mk.injEq, true_and] at same
  have kept := (GrantStatus.laidOver_eq_iff.1 same.symm).2.2.2.1 lapses
  cases kept

end CredentialOperator
