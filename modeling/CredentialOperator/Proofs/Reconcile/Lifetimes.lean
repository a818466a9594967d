import CredentialOperator.Proofs.Reconcile.Persistence
import CredentialOperator.Proofs.Reconcile.Settling

/-!
# Lifetimes of grants

A grant begins without a status, and then passes store statuses one after the other, while its
request, its provider and the labels of its namespace are edited and requests fail.  Whatever
happens, the parts of a stored status fit together: `GrantStatus.Coherent`.

A pass that refuses a grant, one that fails and one that makes the artifact each write a part of
the status and keep the rest.  `GrantPass.Computes.coherent` shows for each of them that what it
writes fits what it keeps, and `Lifetime` carries this through all passes.
-/

namespace CredentialOperator

lemma GrantReason.text_injective {a b : GrantReason} (h : a.text = b.text) : a = b := by
  cases a <;> cases b <;> first | rfl | exact absurd h (by decide)

lemma GrantConditionType.text_injective {a b : GrantConditionType} (h : a.text = b.text) :
    a = b := by
  cases a <;> cases b <;> first | rfl | exact absurd h (by decide)

/-! ## Statuses whose parts fit together -/

namespace GrantStatus

/-- The condition of a type. -/
def condition? (s : GrantStatus) (type : GrantConditionType) : Option Condition :=
  Condition.find? s.conditions type.text

end GrantStatus

/-- The reason of a condition tells its status. -/
def GrantConditionType.Explained (type : GrantConditionType) (c : Condition) : Prop :=
  match type with
  | .ready => c.status = .true ↔ c.reason = GrantReason.credentialReady.text
  | .credentialProvisioned =>
    (c.status = .true ↔ c.reason = GrantReason.artifactProvisioned.text) ∧
      (c.status = .false ↔ c.reason = GrantReason.provisioningFailed.text)

namespace GrantStatus

/-- There is at most one condition of each type, and of the types of a grant only; no status is
unknown, and each is told by the reason. -/
structure Orderly (s : GrantStatus) : Prop where
  single : (s.conditions.map Condition.type).Nodup
  types : ∀ c ∈ s.conditions, ∃ type : GrantConditionType, c.type = type.text
  known : ∀ c ∈ s.conditions, c.status ≠ .unknown
  explained : ∀ type c, s.condition? type = some c → type.Explained c

/-- The parts of a status fit together: the conditions, the artifact, and the dates. -/
structure Coherent (s : GrantStatus) : Prop extends Orderly s where
  ready_made : ∀ c, s.condition? .ready = some c → c.status = .true →
    ∃ d, s.condition? .credentialProvisioned = some d ∧ d.status = .true
  failed_unmade : ∀ c, s.condition? .ready = some c →
    c.reason = GrantReason.provisioningFailed.text →
    ∃ d, s.condition? .credentialProvisioned = some d ∧ d.status = .false
  artifact : s.secretRef.isSome = s.lastRotation.isSome
  schedule : ∀ next, s.nextRotation = some next → ∃ last, s.lastRotation = some last ∧ last < next

lemma coherent_empty : Coherent {} where
  single := List.nodup_nil
  types := by simp
  known := by simp
  explained := by simp [condition?, Condition.find?]
  ready_made := by simp [condition?, Condition.find?]
  failed_unmade := by simp [condition?, Condition.find?]
  artifact := rfl
  schedule := by simp

end GrantStatus

namespace Grant

variable {g : Grant} {now : Timestamp} {type other : GrantConditionType} {holds : Bool}
  {reason : GrantReason} {message : String} {s : GrantStatus}

/-- A condition that was entered is the one of its type, derived from the present generation of the
grant. -/
lemma condition?_enter_self (g : Grant) (now : Timestamp) (type : GrantConditionType)
    (holds : Bool) (reason : GrantReason) (message : String) (s : GrantStatus) :
    ∃ c, (g.enter now type holds reason message s).condition? type = some c ∧
      c.status = .ofBool holds ∧ c.reason = reason.text ∧
      c.observedGeneration = g.metadata.generation := by
  obtain ⟨c, found, same⟩ :=
    Condition.find?_set s.conditions (g.condition now type holds reason message)
  obtain ⟨-, status, said, -, current⟩ := Condition.sameState_iff.1 same
  exact ⟨c, found, status, said, current⟩

lemma condition?_enter_of_ne (h : type ≠ other) :
    (g.enter now type holds reason message s).condition? other = s.condition? other :=
  Condition.find?_set_of_ne fun same => h (GrantConditionType.text_injective same)

/-- Entering a condition whose reason tells its status keeps the conditions in order. -/
lemma orderly_enter (h : s.Orderly)
    (explained : type.Explained (g.condition now type holds reason message)) :
    (g.enter now type holds reason message s).Orderly where
  single := Condition.nodup_types_set h.single
  types := Condition.forall_mem_set (fun _ _ => id) h.types ⟨type, rfl⟩
  known := by
    refine Condition.forall_mem_set (fun _ _ => id) h.known ?_
    cases holds <;> simp [condition, ConditionStatus.ofBool]
  explained := by
    intro t c hc
    by_cases ht : type = t
    · subst ht
      obtain ⟨d, entered, status, said, -⟩ :=
        condition?_enter_self g now type holds reason message s
      obtain rfl := Option.some.inj (entered.symm.trans hc)
      cases type with
      | ready => simpa [GrantConditionType.Explained, condition, status, said] using explained
      | credentialProvisioned =>
        simpa [GrantConditionType.Explained, condition, status, said] using explained
    · exact h.explained t c (by rwa [condition?_enter_of_ne ht] at hc)

/-! ## What passes compute -/

lemma explained_rejection (rej : Rejection) :
    GrantConditionType.ready.Explained (g.condition now .ready false rej.reason message) := by
  have other : rej.reason.text ≠ GrantReason.credentialReady.text := by
    intro same
    cases rej <;> exact absurd (GrantReason.text_injective same) (by simp [Rejection.reason])
  simp [GrantConditionType.Explained, condition, ConditionStatus.ofBool, other]

lemma explained_failure :
    GrantConditionType.credentialProvisioned.Explained
        (g.condition now .credentialProvisioned false .provisioningFailed message) ∧
      GrantConditionType.ready.Explained
        (g.condition now .ready false .provisioningFailed message) := by
  simp [GrantConditionType.Explained, condition, ConditionStatus.ofBool, GrantReason.text]

lemma explained_made : GrantConditionType.credentialProvisioned.Explained
    (g.condition now .credentialProvisioned true .artifactProvisioned message) := by
  simp [GrantConditionType.Explained, condition, ConditionStatus.ofBool, GrantReason.text]

lemma explained_ready : GrantConditionType.ready.Explained
    (g.condition now .ready true .credentialReady message) := by
  simp [GrantConditionType.Explained, condition, ConditionStatus.ofBool, GrantReason.text]

/-- A rejection says that the grant is not ready, for a reason that has nothing to do with the
artifact. -/
lemma coherent_rejectedStatus (rej : Rejection) (h : g.statusOrEmpty.Coherent) :
    (g.rejectedStatus now rej).Coherent := by
  obtain ⟨c, entered, status, said, -⟩ := condition?_enter_self g now .ready false rej.reason
    rej.message g.statusOrEmpty
  have orderly : (g.rejectedStatus now rej).Orderly :=
    orderly_enter h.toOrderly (explained_rejection rej)
  refine ⟨orderly, ?_, ?_, h.artifact, h.schedule⟩
  · intro d hd ready
    obtain rfl := Option.some.inj (entered.symm.trans hd)
    simp [status, ConditionStatus.ofBool] at ready
  · intro d hd failed
    obtain rfl := Option.some.inj (entered.symm.trans hd)
    rw [said] at failed
    cases rej <;> exact absurd (GrantReason.text_injective failed) (by simp [Rejection.reason])

/-- The conditions of a status into which one of each type was entered, that on the artifact
first. -/
lemma conditions_enter_enter {holds' : Bool} {reason' : GrantReason} {message' : String} :
    ∃ c d,
      (g.enter now .ready holds' reason' message'
        (g.enter now .credentialProvisioned holds reason message s)).condition? .ready = some c ∧
      c.status = .ofBool holds' ∧ c.reason = reason'.text ∧
      (g.enter now .ready holds' reason' message'
        (g.enter now .credentialProvisioned holds reason message s)).condition?
          .credentialProvisioned = some d ∧
      d.status = .ofBool holds := by
  obtain ⟨c, ready, status, said, -⟩ := condition?_enter_self g now .ready holds' reason' message'
    (g.enter now .credentialProvisioned holds reason message s)
  obtain ⟨d, made, status', -⟩ := condition?_enter_self g now .credentialProvisioned holds reason
    message s
  exact ⟨c, d, ready, status, said, by rw [condition?_enter_of_ne (by simp), made], status'⟩

/-- A failure says of the artifact and of the grant that it could not be made. -/
lemma coherent_failedStatus (message : String) (h : g.statusOrEmpty.Coherent) :
    (g.failedStatus now message).Coherent := by
  obtain ⟨c, d, ready, status, -, made, status'⟩ := conditions_enter_enter (g := g)
  have orderly : (g.failedStatus now message).Orderly :=
    orderly_enter (orderly_enter h.toOrderly explained_failure.1) explained_failure.2
  refine ⟨orderly, ?_, ?_, h.artifact, h.schedule⟩
  · intro c' hc' holds
    obtain rfl := Option.some.inj (ready.symm.trans hc')
    simp [status, ConditionStatus.ofBool] at holds
  · intro c' hc' _
    exact ⟨d, made, status'⟩

/-- A success says of the artifact and of the grant that they are there, and puts the next
rotation after the last one. -/
lemma coherent_provisionedStatus {p : Provider} (result : ProvisionResult)
    (h : g.statusOrEmpty.Coherent) :
    (g.provisionedStatus now (GrantPass.rotationOf now g p) result).Coherent := by
  obtain ⟨c, d, ready, status, said, made, status'⟩ := conditions_enter_enter (g := g)
  have orderly : (g.provisionedStatus now (GrantPass.rotationOf now g p) result).Orderly := by
    refine orderly_enter (orderly_enter ?_ explained_made) explained_ready
    exact ⟨h.single, h.types, h.known, h.explained⟩
  refine ⟨orderly, ?_, ?_, rfl, ?_⟩
  · intro c' hc' _
    exact ⟨d, made, status'⟩
  · intro c' hc' failed
    obtain rfl := Option.some.inj (ready.symm.trans hc')
    rw [said] at failed
    exact absurd (GrantReason.text_injective failed) (by simp)
  · intro next hnext
    obtain ⟨i, hi, added⟩ := Option.bind_eq_some_iff.1 hnext
    exact ⟨_, rfl, Timestamp.lt_of_addSeconds? (rotationInterval?_pos hi) added⟩

/-- The date of the last rotation is the old one, or that of the pass. -/
lemma lastRotation_provisionedStatus {rotation : Rotation} {result : ProvisionResult} :
    (g.provisionedStatus now rotation result).lastRotation = some rotation.last := rfl

end Grant

namespace GrantPass

variable {now : Timestamp} {g : Grant} {ds : List Deed} {s : GrantStatus}
  {r : Except ReconcileFailure Action}

/-- What a pass computes from a status whose parts fit together fits together. -/
lemma Computes.coherent (h : Computes now g ds s) (before : g.statusOrEmpty.Coherent) :
    s.Coherent := by
  cases h with
  | rejected rej => exact Grant.coherent_rejectedStatus rej before
  | failed message => exact Grant.coherent_failedStatus message before
  | provisioned result _ => exact Grant.coherent_provisionedStatus result before

/-- A computed status keeps the date of the last rotation, or has that of the pass. -/
lemma Computes.lastRotation (h : Computes now g ds s) :
    s.lastRotation = g.statusOrEmpty.lastRotation ∨ s.lastRotation = some now := by
  cases h with
  | rejected rej => exact .inl rfl
  | failed message => exact .inl rfl
  | @provisioned p result _ =>
    rw [Grant.lastRotation_provisionedStatus, rotationOf, Rotation.plan, Rotation.lastAt]
    cases hl : g.statusOrEmpty.lastRotation with
    | none => exact .inr rfl
    | some last =>
      simp only
      split
      · exact .inr rfl
      · exact .inl rfl

end GrantPass

/-! ## Passes one after the other -/

/-- The status that a deed stores: the one that is handed over, if the request succeeds. -/
def Deed.stored? : Deed → Option GrantStatus
  | .request (.patchGrantStatus _ s) (.ok _) => some s
  | _ => none

/-- The status of a grant after some deeds: the last one stored, if there is any. -/
def storedAfter (before : Option GrantStatus) (ds : List Deed) : Option GrantStatus :=
  (ds.filterMap Deed.stored?).getLast?.or before

lemma Deed.of_stored? {d : Deed} {s : GrantStatus} (h : d.stored? = some s) :
    ∃ key out, d = .request (.patchGrantStatus key s) out := by
  cases d with
  | request r o =>
    cases r
    case patchGrantStatus key t =>
      cases o with
      | ok a =>
        cases h
        exact ⟨key, .ok a, rfl⟩
      | error e => cases h
    all_goals cases h
  | publish e => cases h
  | measure m => cases h

/-- A pass leaves the status alone, or stores one that it has computed. -/
lemma GrantPass.stored_of_runs {now : Timestamp} {g : Grant} {ds : List Deed}
    {r : Except ReconcileFailure Action} (h : (reconcileGrant now g).run.Runs ds r) :
    storedAfter g.status ds = g.status ∨
      ∃ s, storedAfter g.status ds = some s ∧ Computes now g ds s := by
  unfold storedAfter
  cases hl : (ds.filterMap Deed.stored?).getLast? with
  | none => exact .inl rfl
  | some s =>
    obtain ⟨d, hd, stored⟩ := List.mem_filterMap.1 (List.mem_of_getLast? hl)
    obtain ⟨key, out, rfl⟩ := Deed.of_stored? stored
    exact .inr ⟨s, rfl, computes_of_runs h hd⟩

/-- The status that was stored last. -/
def latest : List (Timestamp × Option GrantStatus) → Option GrantStatus
  | [] => none
  | (_, s) :: _ => s

/-- The passes over a grant since it had no status, the latest first: when each took place, and the
status that was stored after it.  Each pass finds the status that the one before it left; all else
about the grant, and how the requests of the pass are answered, is open. -/
inductive Lifetime : List (Timestamp × Option GrantStatus) → Prop where
  | fresh : Lifetime []
  | pass {past : List (Timestamp × Option GrantStatus)} {now : Timestamp} {g : Grant}
      {ds : List Deed} {r : Except ReconcileFailure Action} (before : Lifetime past)
      (found : g.status = latest past) (runs : (reconcileGrant now g).run.Runs ds r) :
      Lifetime ((now, storedAfter g.status ds) :: past)

namespace Lifetime

variable {past : List (Timestamp × Option GrantStatus)}

lemma mem_of_latest {s : GrantStatus} (h : latest past = some s) : ∃ t, (t, some s) ∈ past := by
  match past, h with
  | (t, _) :: rest, rfl => exact ⟨t, List.mem_cons_self ..⟩

/-- Every status that was stored fits together. -/
lemma coherent (h : Lifetime past) : ∀ t s, (t, some s) ∈ past → s.Coherent := by
  induction h with
  | fresh => intro t s hs; cases hs
  | @pass past now g ds r before found runs ih =>
    have start : g.statusOrEmpty.Coherent := by
      rw [Grant.statusOrEmpty, found]
      cases hl : latest past with
      | none => exact GrantStatus.coherent_empty
      | some s =>
        obtain ⟨t, ht⟩ := mem_of_latest hl
        exact ih t s ht
    intro t s hs
    rcases List.mem_cons.1 hs with hs | hs
    · obtain ⟨-, hs⟩ := Prod.mk.inj hs
      rcases GrantPass.stored_of_runs runs with kept | ⟨s', stored, computed⟩
      · have stood : latest past = some s := by rw [← found, ← kept, ← hs]
        obtain ⟨t', ht'⟩ := mem_of_latest stood
        exact ih t' s ht'
      · obtain rfl := Option.some.inj (hs.trans stored)
        exact computed.coherent start
    · exact ih t s hs

/-- The date of the last rotation that a grant with a status shows. -/
def rotated (s : Option GrantStatus) : Option Timestamp := s.bind (·.lastRotation)

lemma rotated_of_runs {now : Timestamp} {g : Grant} {ds : List Deed}
    {r : Except ReconcileFailure Action} (h : (reconcileGrant now g).run.Runs ds r) :
    rotated (storedAfter g.status ds) = rotated g.status ∨
      rotated (storedAfter g.status ds) = some now := by
  rcases GrantPass.stored_of_runs h with kept | ⟨s, stored, computed⟩
  · exact .inl (congrArg rotated kept)
  · have same : g.statusOrEmpty.lastRotation = rotated g.status := by
      rw [Grant.statusOrEmpty, rotated]
      cases g.status <;> rfl
    rw [stored, ← same]
    exact computed.lastRotation

/-- If the clock does not go back, no date of a rotation lies after the pass that left it, and
each stays or is followed by a later one. -/
lemma dates (h : Lifetime past) (clock : past.Pairwise fun later earlier => earlier.1 ≤ later.1) :
    (∀ e ∈ past, ∀ last, rotated e.2 = some last → last ≤ e.1) ∧
      past.Pairwise fun later earlier => ∀ last, rotated earlier.2 = some last →
        ∃ last', rotated later.2 = some last' ∧ last ≤ last' := by
  induction h with
  | fresh => exact ⟨by simp, .nil⟩
  | @pass past now g ds r before found runs ih =>
    obtain ⟨passed, ordered⟩ := List.pairwise_cons.1 clock
    obtain ⟨bounded, monotone⟩ := ih ordered
    have step := rotated_of_runs runs
    rw [List.forall_mem_cons, List.pairwise_cons]
    refine ⟨⟨?_, bounded⟩, ?_, monotone⟩
    · intro last hl
      rcases step with kept | new
      · rw [kept, found] at hl
        match past, hl with
        | e :: rest, hl =>
          exact Timestamp.le_trans (bounded e (List.mem_cons_self ..) last hl)
            (passed e (List.mem_cons_self ..))
      · obtain rfl := Option.some.inj (new.symm.trans hl)
        exact Timestamp.le_refl _
    · intro e he last hl
      rcases step with kept | new
      -- the date was left alone, and is that of the pass before, to which those before compare
      · rw [kept, found]
        match past, he, monotone with
        | head :: rest, he, monotone =>
          rcases List.mem_cons.1 he with rfl | he
          · exact ⟨last, hl, Timestamp.le_refl _⟩
          · exact (List.pairwise_cons.1 monotone).1 e he last hl
      · exact ⟨now, new, Timestamp.le_trans (bounded e he last hl) (passed e he)⟩

end Lifetime

/-- Whatever happens to a grant that began without a status, every status that is stored by a pass
is coherent.  If the clock does not go back, the date of the last rotation never lies after the
latest pass, and never becomes an earlier one. -/
theorem stored_status_coherent {past : List (Timestamp × Option GrantStatus)} (h : Lifetime past) :
    (∀ t s, (t, some s) ∈ past → s.Coherent) ∧
      ((past.Pairwise fun later earlier => earlier.1 ≤ later.1) →
        (∀ t s last, (t, some s) ∈ past → s.lastRotation = some last → last ≤ t) ∧
          past.Pairwise fun later earlier => ∀ s last, earlier.2 = some s →
            s.lastRotation = some last →
            ∃ s' last', later.2 = some s' ∧ s'.lastRotation = some last' ∧ last ≤ last') := by
  refine ⟨h.coherent, fun clock => ?_⟩
  obtain ⟨bounded, monotone⟩ := h.dates clock
  refine ⟨fun t s last hs hl => bounded (t, some s) hs last hl, monotone.imp ?_⟩
  intro later earlier kept s last hs hl
  obtain ⟨last', hl', le⟩ := kept last (by rw [hs]; exact hl)
  obtain ⟨s', hs', found⟩ := Option.bind_eq_some_iff.1 hl'
  exact ⟨s', last', hs', found, le⟩

namespace Sample

/-- A run that is not disturbed stores what it hands over. -/
lemma stored_of_undisturbed {before : Option GrantStatus} {ds : List Deed} (h : Undisturbed ds) :
    storedAfter before ds = statusAfter before ds := by
  have same : ds.filterMap Deed.stored? = ds.filterMap Deed.status? := by
    refine List.filterMap_congr fun d hd => ?_
    cases d with
    | request r o =>
      cases o with
      | ok a => cases r <;> rfl
      | error e => exact absurd Deed.fails_error (h _ hd)
    | publish e => rfl
    | measure m => rfl
  rw [storedAfter, statusAfter, same]

end Sample

/-- A lifetime of two passes over the grant of the small cluster. -/
theorem sample_stored_status_coherent :
    ∃ s s' last last', Lifetime [(Sample.hour, some s'), (.epoch, some s)] ∧ s.Coherent ∧
      s'.Coherent ∧ s.lastRotation = some last ∧ s'.lastRotation = some last' ∧ last ≤ last' := by
  obtain ⟨ds, a, o', s, runs, -, undisturbed, after, next⟩ := Sample.makes_artifact
  obtain ⟨ds', r', -, runs', -, -⟩ := Sample.objects.exists_undisturbed Sample.hour
    (reconcileGrant Sample.hour { Sample.rotating with status := some s }).run
  have stored : storedAfter Sample.rotating.status ds = some s :=
    (Sample.stored_of_undisturbed undisturbed).trans after
  obtain ⟨s', stored'⟩ : ∃ s', storedAfter (some s) ds' = some s' := by
    unfold storedAfter
    cases (ds'.filterMap Deed.stored?).getLast? <;> simp
  have once : Lifetime [(.epoch, some s)] := stored ▸ Lifetime.fresh.pass rfl runs
  have lifetime : Lifetime [(Sample.hour, some s'), (.epoch, some s)] :=
    stored' ▸ once.pass rfl runs'
  obtain ⟨coherent, dates⟩ := stored_status_coherent lifetime
  have later : Timestamp.epoch ≤ Sample.hour := by decide
  have clock : [(Sample.hour, some s'), (Timestamp.epoch, some s)].Pairwise
      fun later earlier => earlier.1 ≤ later.1 := List.pairwise_pair.2 later
  obtain ⟨last, rotated, -⟩ := (coherent .epoch s (by simp)).schedule Sample.hour next
  obtain ⟨t, last', same, rotated', le⟩ :=
    List.pairwise_pair.1 (dates clock).2 s last rfl rotated
  obtain rfl := Option.some.inj same
  exact ⟨s, s', last, last', lifetime, coherent .epoch s (by simp),
    coherent Sample.hour s' (by simp), rotated, rotated', le⟩

end CredentialOperator
