import CredentialOperator.Proofs.Provider.StoredStatus
import CredentialOperator.Proofs.Reconcile.Authority
import CredentialOperator.Proofs.Reconcile.ProviderCourses
import CredentialOperator.Proofs.Reconcile.Statuses
import Mathlib.Data.List.Chain
import Mathlib.Data.List.Range

/-!
# Events about the health of a provider

A pass tells that a provider has become unhealthy, or healthy again, by comparing its check with the
condition that the provider has.  The condition is written before this is told, and if it cannot be
written nothing is told.  Hence the condition that is stored knows what was told last
(`HealthHistory.state`), and the events take turns (`health_events_alternate`).
-/

namespace CredentialOperator

namespace Deed

/-- The event that a deed publishes. -/
def event? : Deed → Option Event
  | .publish e => some e
  | _ => none

/-- The status of a provider that a deed stores. -/
def storedProvider? : Deed → Option ProviderStatus
  | .request (.patchProviderStatus _ s) (.ok _) => some s
  | _ => none

/-- A status is stored by a request to write it. -/
lemma storedProvider?_eq_some {d : Deed} {s : ProviderStatus} (h : d.storedProvider? = some s) :
    ∃ name, d = .request (.patchProviderStatus name s) (.ok ()) := by
  unfold storedProvider? at h
  split at h
  next name t done =>
    obtain rfl := Option.some.inj h
    exact ⟨name, rfl⟩
  next => cases h

lemma Reads.unspoken {d : Deed} (h : d.Reads) : d.event? = none ∧ d.storedProvider? = none := by
  cases d with
  | request q o => cases q <;> first | exact ⟨rfl, rfl⟩ | simp [Reads, Request.reads] at h
  | publish e => exact absurd h id
  | measure m => exact ⟨rfl, rfl⟩

end Deed

/-- The events that deeds publish, in order. -/
def published (ds : List Deed) : List Event := ds.filterMap Deed.event?

/-- The statuses of providers that deeds store, in order. -/
def storedProviders (ds : List Deed) : List ProviderStatus := ds.filterMap Deed.storedProvider?

section

variable {d : Deed} {ds es : List Deed}

lemma published_cons : published (d :: ds) = d.event?.toList ++ published ds := by
  cases h : d.event? <;> simp [published, h]

lemma storedProviders_cons :
    storedProviders (d :: ds) = d.storedProvider?.toList ++ storedProviders ds := by
  cases h : d.storedProvider? <;> simp [storedProviders, h]

lemma published_append : published (ds ++ es) = published ds ++ published es :=
  List.filterMap_append

lemma storedProviders_append :
    storedProviders (ds ++ es) = storedProviders ds ++ storedProviders es :=
  List.filterMap_append

/-- What neither tells nor stores anything. -/
lemma unspoken_of_forall (h : ∀ d ∈ ds, d.event? = none ∧ d.storedProvider? = none) :
    published ds = [] ∧ storedProviders ds = [] :=
  ⟨List.filterMap_eq_nil_iff.2 fun d hd => (h d hd).1,
    List.filterMap_eq_nil_iff.2 fun d hd => (h d hd).2⟩

end

/-- What the status of a provider may have become after some deeds: the conditions are those of the
status that was stored last, whatever a merge has kept of the rest; if none was stored, all is as
before. -/
def ProviderStatus.Leaves (before : Option ProviderStatus) (ds : List Deed)
    (after : Option ProviderStatus) : Prop :=
  match (storedProviders ds).getLast? with
  | none => after = before
  | some s => ∃ t, after = some t ∧ t.conditions = s.conditions

/-- A status that takes the place of the old one is left. -/
lemma ProviderStatus.leaves_last (before : Option ProviderStatus) (ds : List Deed) :
    Leaves before ds ((storedProviders ds).getLast?.or before) := by
  unfold Leaves
  cases (storedProviders ds).getLast? <;> simp

/-- A status that is merged into the old one leaves its conditions. -/
lemma ProviderStatus.leaves_laidOver {before : Option ProviderStatus} {ds : List Deed}
    {s : ProviderStatus} (stored : storedProviders ds = [s]) (some_condition : s.conditions ≠ []) :
    Leaves before ds (some (s.laidOver (before.getD {}))) := by
  simp [Leaves, stored, laidOver, some_condition]

/-- What a status says about the health of a provider. -/
def ProviderStatus.health? (s : Option ProviderStatus) : Option ConditionStatus :=
  (Condition.find? (s.getD {}).conditions ProviderPass.readyType).map (·.status)

/-! ## What a pass tells -/

namespace ProviderPass

variable {now : Timestamp} {p : Provider} {check : CredentialCheck} {listed : Listing}
  {look ds : List Deed} {r : Except ReconcileFailure Action} {after : Option ProviderStatus}

/-- The status that a pass computes says what came of the check. -/
lemma find?_computedStatus (now : Timestamp) (p : Provider) (check : CredentialCheck)
    (listed : Listing) :
    ∃ c, Condition.find? (computedStatus now p check listed).conditions readyType = some c ∧
      Condition.sameState c (condition now p check) = true :=
  Condition.find?_set _ (condition now p check)

/-- A status that is kept says what came of the check, too. -/
lemma find?_of_kept (h : mustWrite now p check listed = false) :
    ∃ c, Condition.find? (p.status.getD {}).conditions readyType = some c ∧
      Condition.sameState c (condition now p check) = true := by
  have equivalent : Condition.equivalent (p.status.getD {}).conditions
      (computedStatus now p check listed).conditions = true := by
    simpa using (Bool.or_eq_false_iff.1 (Bool.or_eq_false_iff.1 h).1).1
  exact Condition.equivalent_set_iff.1 equivalent

lemma published_leadDeeds (reads : ∀ d ∈ look, d.Reads) :
    published (leadDeeds p check listed look) = [] ∧
      storedProviders (leadDeeds p check listed look) = [] := by
  refine unspoken_of_forall fun d hd => ?_
  rcases List.mem_append.1 hd with hd | hd
  · exact (reads d hd).unspoken
  · simp only [List.mem_cons, List.not_mem_nil, or_false] at hd
    rcases hd with rfl | rfl <;> exact ⟨rfl, rfl⟩

lemma published_news : published (news p check) = (event? p check).toList ∧
    storedProviders (news p check) = [] := by
  unfold news
  cases event? p check <;> exact ⟨rfl, rfl⟩

/-- What a course tells and stores. -/
lemma Course.told (course : Course now p check listed look ds r) (reads : ∀ d ∈ look, d.Reads) :
    ((∃ e, r = .error e) ∧ published ds = [] ∧ storedProviders ds = []) ∨
      published ds = (event? p check).toList ∧
        (mustWrite now p check listed = false ∧ storedProviders ds = [] ∨
          mustWrite now p check listed = true ∧
            storedProviders ds = [computedStatus now p check listed]) := by
  obtain ⟨untold, unstored⟩ : published (leadDeeds p check listed look) = [] ∧
      storedProviders (leadDeeds p check listed look) = [] := published_leadDeeds reads
  obtain ⟨told, unstored'⟩ : published (news p check) = (event? p check).toList ∧
      storedProviders (news p check) = [] := published_news
  cases course with
  | kept good =>
    refine .inr ⟨?_, .inl ⟨good, ?_⟩⟩
    · rw [published_append, untold, told, List.nil_append]
    · rw [storedProviders_append, unstored, unstored', List.nil_append]
  | unwritten _ e =>
    refine .inl ⟨⟨_, rfl⟩, ?_, ?_⟩
    · rw [published_append, untold, List.nil_append]
      rfl
    · rw [storedProviders_append, unstored, List.nil_append]
      rfl
  | written bad =>
    refine .inr ⟨?_, .inr ⟨bad, ?_⟩⟩
    · rw [published_append, published_cons, untold, told]
      rfl
    · rw [storedProviders_append, storedProviders_cons, unstored, unstored']
      rfl

lemma published_append_endDeeds :
    published (ds ++ Pass.endDeeds .providers r) = published ds := by
  rw [published_append]
  cases r <;> exact List.append_nil _

lemma storedProviders_append_endDeeds :
    storedProviders (ds ++ Pass.endDeeds .providers r) = storedProviders ds := by
  rw [storedProviders_append]
  cases r <;> exact List.append_nil _

/-- A pass whose status cannot be written fails, tells nothing and changes nothing.  Any other tells
what is new, and the status says what came of the check. -/
lemma told_of_pass (h : (reconcileProvider now p).run.Runs ds r)
    (leaves : ProviderStatus.Leaves p.status ds after) :
    ((∃ e, r = .error e) ∧ published ds = [] ∧ after = p.status) ∨
      ∃ check look, (checkCredential p).Runs look check ∧
        published ds = (event? p check).toList ∧
        ProviderStatus.health? after = some (.ofBool check.healthy) := by
  obtain ⟨check, listed, look, es, checked, course, rfl⟩ := course_of_runs h
  rw [ProviderStatus.Leaves, storedProviders_append_endDeeds] at leaves
  rw [published_append_endDeeds]
  rcases course.told (checkCredential_reads checked) with
    ⟨failed, told, stored⟩ | ⟨told, ⟨good, stored⟩ | ⟨-, stored⟩⟩
  · rw [stored] at leaves
    exact .inl ⟨failed, told, leaves⟩
  · rw [stored] at leaves
    obtain ⟨c, found, like⟩ := find?_of_kept good
    have unchanged : after = p.status := leaves
    refine .inr ⟨check, look, checked, told, ?_⟩
    simp [ProviderStatus.health?, unchanged, found, (Condition.sameState_iff.1 like).2.1, condition]
  · rw [stored] at leaves
    obtain ⟨c, found, like⟩ := find?_computedStatus now p check listed
    obtain ⟨t, rfl, conditions⟩ := leaves
    refine .inr ⟨check, look, checked, told, ?_⟩
    simp [ProviderStatus.health?, conditions, found, (Condition.sameState_iff.1 like).2.1,
      condition]

/-- A provider that is known to be unhealthy is news when it is healthy. -/
lemma event?_of_unhealthy (check : CredentialCheck)
    (known : ProviderStatus.health? p.status = some .false) :
    (event? p check).map (·.reason) =
      if check.healthy then some Event.providerHealthy else none := by
  obtain ⟨c, found, status⟩ := Option.map_eq_some_iff.1 known
  have was : wasHealthy? p = some false := by simp [wasHealthy?, found, status]
  unfold event?
  rw [was]
  cases check.healthy <;> rfl

/-- Any other is news when it is not. -/
lemma event?_of_healthy (check : CredentialCheck)
    (known : ProviderStatus.health? p.status = some .true ∨
      ProviderStatus.health? p.status = none) :
    (event? p check).map (·.reason) =
      if check.healthy then none else some Event.providerUnhealthy := by
  have was : wasHealthy? p = some true ∨ wasHealthy? p = none := by
    rcases known with known | known
    · obtain ⟨c, found, status⟩ := Option.map_eq_some_iff.1 known
      exact .inl (by simp [wasHealthy?, found, status])
    · exact .inr (by simp [wasHealthy?, Option.map_eq_none_iff.1 known])
  unfold event?
  rcases was with was | was <;> rw [was] <;> cases check.healthy <;> rfl

end ProviderPass

/-! ## What is told over time -/

/-- The events of passes over a provider that follow one another, and the status that is stored for
it.  It begins without one, and each pass finds it as the passes before have left it.  All else
about the provider and the world is open, and so is which requests of the pass fail. -/
inductive HealthHistory : List Event → Option ProviderStatus → Prop where
  | start : HealthHistory [] none
  /-- A pass takes place. -/
  | pass {events : List Event} {stored after : Option ProviderStatus} {now : Timestamp}
      {p : Provider} {ds : List Deed} {r : Except ReconcileFailure Action}
      (before : HealthHistory events stored) (found : p.status = stored)
      (runs : (reconcileProvider now p).run.Runs ds r)
      (leaves : ProviderStatus.Leaves p.status ds after) :
      HealthHistory (events ++ published ds) after

/-- The reason of an event after `n` others, if they take turns. -/
def healthTurn (n : Nat) : String :=
  if n % 2 = 0 then Event.providerUnhealthy else Event.providerHealthy

/-- The reasons of the first `n` events, if they take turns. -/
def healthTurns (n : Nat) : List String := (List.range n).map healthTurn

lemma healthTurns_succ (n : Nat) : healthTurns (n + 1) = healthTurns n ++ [healthTurn n] := by
  simp [healthTurns, List.range_succ]

lemma healthTurn_eq_unhealthy_iff {n : Nat} :
    healthTurn n = Event.providerUnhealthy ↔ n % 2 = 0 := by
  have distinct : Event.providerHealthy ≠ Event.providerUnhealthy := by decide
  simp [healthTurn, distinct]

/-- No two events in a row are alike. -/
lemma isChain_healthTurns (n : Nat) : (healthTurns n).IsChain (· ≠ ·) := by
  rw [healthTurns, List.isChain_map, List.isChain_range]
  intro m _ same
  have turn := congrArg (· = Event.providerUnhealthy) same
  simp only [healthTurn_eq_unhealthy_iff, eq_iff_iff] at turn
  omega

/-- What is known after `n` events about the health of a provider, if they take turns: after an odd
number that it is unhealthy, after an even number that it is healthy, or nothing yet. -/
def HealthKnown (n : Nat) (health : Option ConditionStatus) : Prop :=
  if n % 2 = 0 then health = some .true ∨ n = 0 ∧ health = none else health = some .false

lemma HealthKnown.unhealthy_iff {n : Nat} {health : Option ConditionStatus}
    (h : HealthKnown n health) : health = some .false ↔ n % 2 = 1 := by
  unfold HealthKnown at h
  split_ifs at h with even
  · rcases h with rfl | ⟨rfl, rfl⟩ <;> simp [even]
  · simp [h, Nat.mod_two_ne_zero.1 even]

/-- A pass tells nothing if what it finds is known, and else the event whose turn it is. -/
lemma HealthKnown.step {n : Nat} {p : Provider} (check : CredentialCheck)
    (known : HealthKnown n (ProviderStatus.health? p.status)) :
    ProviderPass.event? p check = none ∧ HealthKnown n (some (.ofBool check.healthy)) ∨
      ∃ e, ProviderPass.event? p check = some e ∧ e.reason = healthTurn n ∧
        HealthKnown (n + 1) (some (.ofBool check.healthy)) := by
  unfold HealthKnown at known
  split_ifs at known with even
  · have known' : ProviderStatus.health? p.status = some .true ∨
        ProviderStatus.health? p.status = none := known.imp_right And.right
    have odd : (n + 1) % 2 ≠ 0 := by omega
    have told := ProviderPass.event?_of_healthy check known'
    cases healthy : check.healthy <;> rw [healthy] at told
    · obtain ⟨e, some_event, reason⟩ := Option.map_eq_some_iff.1 told
      refine .inr ⟨e, some_event, ?_, ?_⟩
      · rw [reason, healthTurn, if_pos even]
      · rw [HealthKnown, if_neg odd]
        rfl
    · refine .inl ⟨Option.map_eq_none_iff.1 told, ?_⟩
      rw [HealthKnown, if_pos even]
      exact .inl rfl
  · have even' : (n + 1) % 2 = 0 := by omega
    have told := ProviderPass.event?_of_unhealthy check known
    cases healthy : check.healthy <;> rw [healthy] at told
    · refine .inl ⟨Option.map_eq_none_iff.1 told, ?_⟩
      rw [HealthKnown, if_neg even]
      rfl
    · obtain ⟨e, some_event, reason⟩ := Option.map_eq_some_iff.1 told
      refine .inr ⟨e, some_event, ?_, ?_⟩
      · rw [reason, healthTurn, if_neg even]
      · rw [HealthKnown, if_pos even']
        exact .inl rfl

namespace HealthHistory

variable {events : List Event} {stored : Option ProviderStatus}

/-- The stored status knows what was told last. -/
lemma state (h : HealthHistory events stored) :
    events.map (·.reason) = healthTurns events.length ∧
      HealthKnown events.length (ProviderStatus.health? stored) := by
  induction h with
  | start => exact ⟨rfl, .inr ⟨rfl, rfl⟩⟩
  | @pass events stored after now p ds r _ found runs leaves ih =>
    subst found
    obtain ⟨turns, known⟩ := ih
    rcases ProviderPass.told_of_pass runs leaves with
      ⟨-, untold, rfl⟩ | ⟨check, -, -, told, health⟩
    · rw [untold, List.append_nil]
      exact ⟨turns, known⟩
    · rw [told, health]
      rcases known.step check with ⟨quiet, known'⟩ | ⟨e, loud, reason, known'⟩
      · rw [quiet, Option.toList_none, List.append_nil]
        exact ⟨turns, known'⟩
      · rw [loud, Option.toList_some, List.map_append, List.length_append, turns]
        refine ⟨?_, known'⟩
        simp [healthTurns_succ, reason]

end HealthHistory

/-- However the declaration and the cluster change, and whichever requests fail, in passes over a
provider that had no status: the events are that it is unhealthy, that it is healthy, that it is
unhealthy and so on, no two in a row are alike, and the last one says that the provider is unhealthy
if and only if the stored condition `Ready` is false. -/
theorem health_events_alternate {events : List Event} {stored : Option ProviderStatus}
    (h : HealthHistory events stored) :
    events.map (·.reason) = healthTurns events.length ∧
      (events.map (·.reason)).IsChain (· ≠ ·) ∧
      (events.getLast?.map (·.reason) = some Event.providerUnhealthy ↔
        ProviderStatus.health? stored = some .false) := by
  obtain ⟨turns, known⟩ := h.state
  refine ⟨turns, ?_, ?_⟩
  · rw [turns]
    exact isChain_healthTurns _
  · rw [known.unhealthy_iff, ← List.getLast?_map, turns]
    cases events.length with
    | zero => simp [healthTurns]
    | succ n =>
      rw [healthTurns_succ, List.getLast?_concat, Option.some.injEq, healthTurn_eq_unhealthy_iff]
      omega

/-- The provider of the small cluster lacks its block of authentication, which a pass tells. -/
theorem sample_health_events_alternate :
    ∃ events stored, HealthHistory events stored ∧
      events.getLast?.map (·.reason) = some Event.providerUnhealthy := by
  let p := Sample.authenticated { type := .apiKey }
  obtain ⟨ds, r, o', runs, -, undisturbed⟩ :=
    Sample.objects.exists_undisturbed .epoch (reconcileProvider .epoch p).run
  have leaves := ProviderStatus.leaves_last p.status ds
  have history := HealthHistory.start.pass (p := p) rfl runs leaves
  refine ⟨_, _, history, ((health_events_alternate history).2.2).2 ?_⟩
  rcases ProviderPass.told_of_pass runs leaves with
    ⟨⟨e, rfl⟩, -, -⟩ | ⟨check, look, checked, -, known⟩
  · obtain ⟨_, _, _, _, -, course, rfl⟩ := ProviderPass.course_of_runs runs
    cases course.ok_of_undisturbed (undisturbed_append.1 undisturbed).1
  · obtain ⟨-, rfl⟩ := Program.runs_done.1 checked
    exact known

end CredentialOperator
