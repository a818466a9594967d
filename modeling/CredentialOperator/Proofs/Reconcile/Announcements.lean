import CredentialOperator.Proofs.Reconcile.Counters

/-!
# What is announced about grants

A pass that refuses a grant, one that fails and one after which the grant has become ready each
publish an event that bears the reason of the condition `Ready`.  They do so only after the status
was written, and only if it was not as good as the one before, so that people hear of every
transition once.  `GrantPass.Announced` says this of a single pass.

In a `StatusHistory` passes over any grants follow one another, each of which finds the status that
is stored for its grant.  All else that they find is open, as is how their requests are answered.
There a grant is announced to be ready as often as its stored status becomes that
(`announcements_mark_transitions`).
-/

namespace CredentialOperator

/-! ## Verdicts -/

/-- The event that a deed publishes about a grant as a whole; other events are about the removal of
its artifact. -/
def Deed.verdict? : Deed → Option Event
  | .publish e => if GrantReason.all.any (·.text = e.reason) then some e else none
  | _ => none

/-- Whether a deed announces that a grant has become ready. -/
def Deed.announcesReady : Deed → Bool
  | .publish e => e.reason = GrantReason.credentialReady.text
  | _ => false

/-- The events about grants as a whole, in order. -/
def verdicts (ds : List Deed) : List Event := ds.filterMap Deed.verdict?

section

variable {ds es : List Deed} {d : Deed} {e : Event}

lemma Deed.verdict?_publish (reason : GrantReason) (said : e.reason = reason.text) :
    (Deed.publish e).verdict? = some e := by
  have listed : reason ∈ GrantReason.all := by cases reason <;> decide
  exact if_pos (List.any_eq_true.2 ⟨reason, listed, by simp [said]⟩)

lemma Deed.verdict?_cleanup
    (said : e.reason = Event.cleanupComplete ∨ e.reason = Event.cleanupFailed) :
    (Deed.publish e).verdict? = none := by
  rcases said with said | said <;> exact if_neg (by rw [said]; decide)

@[simp] lemma Deed.verdict?_request {q : Request} {o : q.Outcome} :
    (Deed.request q o).verdict? = none := rfl

@[simp] lemma Deed.stored?_publish : (Deed.publish e).stored? = none := rfl

/-- Silent deeds announce nothing and write no status. -/
lemma Deed.Silent.untold (h : d.Silent) :
    d.verdict? = none ∧ d.stored? = none ∧ d.losesStatus = false := by
  match d, h with
  | .measure m, _ => exact ⟨rfl, rfl, rfl⟩
  | .request r o, h => cases r <;> first | exact ⟨rfl, rfl, rfl⟩ | exact absurd h id

lemma untold_of_silent (h : ∀ d ∈ ds, d.Silent) :
    verdicts ds = [] ∧ ds.filterMap Deed.stored? = [] ∧ lost ds = false :=
  ⟨List.filterMap_eq_nil_iff.2 fun d hd => (h d hd).untold.1,
    List.filterMap_eq_nil_iff.2 fun d hd => (h d hd).untold.2.1,
    List.any_eq_false.2 fun d hd => by simp [(h d hd).untold.2.2]⟩

@[simp] lemma verdicts_nil : verdicts [] = [] := rfl

lemma verdicts_append : verdicts (ds ++ es) = verdicts ds ++ verdicts es :=
  List.filterMap_append

lemma verdicts_cons : verdicts (d :: ds) = d.verdict?.toList ++ verdicts ds := by
  cases h : d.verdict? <;> simp [verdicts, h]

/-- The events about a grant as a whole are those that bear a reason of its conditions. -/
lemma mem_verdicts :
    e ∈ verdicts ds ↔ .publish e ∈ ds ∧ ∃ reason : GrantReason, e.reason = reason.text := by
  constructor
  · intro h
    obtain ⟨d, hd, told⟩ := List.mem_filterMap.1 h
    cases d with
    | request r o => cases told
    | measure m => cases told
    | publish e' =>
      obtain ⟨listed, same⟩ := Option.ite_none_right_eq_some.1 told
      obtain rfl := Option.some.inj same
      obtain ⟨reason, -, said⟩ := List.any_eq_true.1 listed
      exact ⟨hd, reason, (of_decide_eq_true said).symm⟩
  · rintro ⟨published, reason, said⟩
    exact List.mem_filterMap.2 ⟨_, published, Deed.verdict?_publish reason said⟩

/-- A grant is announced to be ready by verdicts only. -/
lemma countP_announcesReady (ds : List Deed) : ds.countP Deed.announcesReady =
    (verdicts ds).countP (·.reason = GrantReason.credentialReady.text) := by
  induction ds with
  | nil => rfl
  | cons d ds ih =>
    rw [verdicts_cons, List.countP_append, ← ih, List.countP_cons, Nat.add_comm]
    congr 1
    match d with
    | .request r o => rfl
    | .measure m => rfl
    | .publish e =>
      by_cases said : e.reason = GrantReason.credentialReady.text
      · simp [Deed.verdict?_publish _ said, Deed.announcesReady, said]
      · by_cases told : GrantReason.all.any (·.text = e.reason) <;>
          simp [Deed.verdict?, Deed.announcesReady, said, told]

end

/-! ## What a pass announces -/

namespace Finding

variable {now : Timestamp} {g : Grant} {f : Finding} {e : Event}

/-- The event about a grant as a whole that tells what was found, if it is news. -/
def event? (g : Grant) : Finding → Option Event
  | .rejected rej => some (GrantPass.rejectionEvent g rej)
  | .failed f => some (GrantPass.failureEvent g f)
  | .provisioned _ result =>
    if g.state ≠ .ready then
      some (GrantPass.event g .normal GrantReason.credentialReady.text Event.provision
        s!"Secret {result.ns}/{result.name} is ready")
    else none

/-- The event bears the reason of the condition. -/
lemma reason_of_event? (told : f.event? g = some e) : e.reason = f.reason.text := by
  cases f with
  | rejected rej =>
    obtain rfl := Option.some.inj told
    rfl
  | failed failure =>
    obtain rfl := Option.some.inj told
    rfl
  | provisioned p result =>
    obtain ⟨-, told⟩ := Option.ite_none_right_eq_some.1 told
    obtain rfl := Option.some.inj told
    rfl

lemma event?_eq_none_iff : f.event? g = none ↔ f.isMade = true ∧ g.state = .ready := by
  cases f <;> simp [event?, isMade]

lemma reason_eq_credentialReady_iff : f.reason = .credentialReady ↔ f.isMade = true := by
  rcases f with (_ | _ | _ | _) | _ | _ <;> simp [reason, isMade, Rejection.reason]

lemma state_eq_ready_iff : f.state = .ready ↔ f.isMade = true := by
  rcases f with (_ | _ | _ | _) | _ | _ <;>
    simp [state, isMade, Rejection.reason, GrantReason.isPermanent]

lemma conditions_status_ne_nil (f : Finding) : (f.status now g).conditions ≠ [] := by
  cases f <;> exact Condition.set_ne_nil _ _

end Finding

namespace GrantPass

variable {now : Timestamp} {g : Grant} {ns : String} {ds : List Deed} {f : Finding}
  {r : Except ReconcileFailure Action}

/-- What a report announces: nothing unless it writes the status, and the news if it does. -/
lemma Report.announces {s : GrantStatus} {before news after : List Deed} {a : Action}
    (h : Report g ns s before news after a ds r)
    (silent : ∀ d, d ∈ before ∨ d ∈ after → d.Silent)
    (plain : ∀ d ∈ news, ∃ e, d = .publish e) :
    (verdicts ds = [] ∧ ds.filterMap Deed.stored? = []) ∨
      (g.status.any (·.equivalent s) = false ∧ lost ds = false ∧
        .request (.patchGrantStatus ⟨ns, g.name⟩ s) (.ok ()) ∈ ds ∧
        ds.filterMap Deed.stored? = [s] ∧ verdicts ds = verdicts news) := by
  obtain ⟨told, stored, unlost⟩ := untold_of_silent fun d hd => silent d (.inl hd)
  obtain ⟨told', stored', unlost'⟩ := untold_of_silent fun d hd => silent d (.inr hd)
  have news_stored : news.filterMap Deed.stored? = [] := by
    refine List.filterMap_eq_nil_iff.2 fun d hd => ?_
    obtain ⟨e, rfl⟩ := plain d hd
    rfl
  have news_unlost : lost news = false := by
    refine List.any_eq_false.2 fun d hd => ?_
    obtain ⟨e, rfl⟩ := plain d hd
    simp [Deed.losesStatus]
  cases h with
  | kept h => exact .inl ⟨by simp [verdicts_append, told, told'], by simp [stored, stored']⟩
  | unwritten h e =>
    exact .inl ⟨by simp [verdicts_append, verdicts_cons, told], by simp [stored, Deed.stored?]⟩
  | written h =>
    refine .inr ⟨h, ?_, by simp, by simp [stored, stored', news_stored, Deed.stored?], ?_⟩
    · simp [lost_append, lost_cons, unlost, unlost', news_unlost, Deed.losesStatus]
    · simp [verdicts_append, verdicts_cons, told, told']

/-- What is told of a finding announces it. -/
lemma Tells.announces (h : Tells now g ns f ds r) :
    (verdicts ds = [] ∧ ds.filterMap Deed.stored? = []) ∨
      (g.status.any (·.equivalent (f.status now g)) = false ∧ lost ds = false ∧
        .request (.patchGrantStatus ⟨ns, g.name⟩ (f.status now g)) (.ok ()) ∈ ds ∧
        ds.filterMap Deed.stored? = [f.status now g] ∧ verdicts ds = (f.event? g).toList) := by
  cases f with
  | rejected rej =>
    have announced := Report.announces (show Rejected now g ns rej ds r from h)
      (by simp [Deed.Silent]) (by simp)
    have news : (Deed.publish (rejectionEvent g rej)).verdict? = some (rejectionEvent g rej) :=
      Deed.verdict?_publish rej.reason rfl
    rw [verdicts_cons, news] at announced
    exact announced
  | failed failure =>
    have announced := Report.announces (show Failed now g ns failure ds r from h)
      (by simp only [List.mem_cons, List.not_mem_nil, or_false]
          rintro d ((rfl | rfl) | rfl) <;> trivial) (by simp)
    have news : (Deed.publish (failureEvent g failure)).verdict? = some (failureEvent g failure) :=
      Deed.verdict?_publish .provisioningFailed rfl
    rw [verdicts_cons, news] at announced
    exact announced
  | provisioned p result =>
    obtain ⟨look, reads, report⟩ := h
    have counted : ∀ d ∈ rotationDeeds now g ns p, d.Silent := by
      unfold rotationDeeds
      split <;> simp [Deed.Silent]
    have measured : ∀ d ∈ readyDeeds now g ns p, d.Silent := by
      unfold readyDeeds
      split <;> simp [Deed.Silent]
    have announced := Report.announces report
      (by
        rintro d (hd | hd)
        · exact counted d hd
        · exact (List.mem_append.1 hd).elim (measured d) fun hd => (reads d hd).silent)
      (by
        unfold readyNews
        split <;> simp)
    have news : verdicts (readyNews g result) =
        ((Finding.provisioned p result).event? g).toList := by
      unfold readyNews Finding.event?
      split
      · rw [verdicts_cons, Deed.verdict?_publish .credentialReady rfl]
        rfl
      · rfl
    rw [news] at announced
    exact announced

/-- Releasing a grant announces nothing about it as a whole. -/
lemma Releasing.untold (h : Releasing g ns ds r) :
    verdicts ds = [] ∧ ds.filterMap Deed.stored? = [] := by
  have failed : ∀ f, (Deed.publish (unremovedEvent g f)).verdict? = none :=
    fun f => Deed.verdict?_cleanup (.inr rfl)
  have done : (Deed.publish (removedEvent g ns)).verdict? = none :=
    Deed.verdict?_cleanup (.inl rfl)
  cases h with
  | providerUnread e => exact ⟨rfl, rfl⟩
  | unserved hs => exact ⟨rfl, rfl⟩
  | @unremoved _ s hs context e =>
    cases s <;> exact ⟨by simp [verdicts_cons, Strategy.removal, failed], rfl⟩
  | @removed _ s hs found o =>
    cases s <;> exact ⟨by simp [verdicts_cons, Strategy.removal, done], rfl⟩

/-- A pass announces nothing and stores no status, or it announces what it has found and stored. -/
lemma announces_of_runs (h : (reconcileGrant now g).run.Runs ds r) :
    (verdicts ds = [] ∧ ds.filterMap Deed.stored? = []) ∨
      ∃ f : Finding, g.isDeleting = false ∧
        g.status.any (·.equivalent (f.status now g)) = false ∧ lost ds = false ∧
        .request (.patchGrantStatus g.key (f.status now g)) (.ok ()) ∈ ds ∧
        ds.filterMap Deed.stored? = [f.status now g] ∧ verdicts ds = (f.event? g).toList := by
  obtain ⟨es, body_runs, rfl⟩ := Pass.runs_measured.1 h
  obtain ⟨es', course, same⟩ := course_of_runs h
  obtain rfl := List.append_cancel_right same
  have measured : ∀ d ∈ Pass.endDeeds .grants r, d.Silent := by
    cases r <;> simp [Pass.endDeeds, Deed.Silent]
  obtain ⟨told, stored, unlost⟩ := untold_of_silent measured
  rw [verdicts_append, List.filterMap_append, lost_append, told, stored, unlost, List.append_nil,
    List.append_nil, Bool.or_false]
  cases course with
  | homeless hns => exact .inl ⟨rfl, rfl⟩
  | released hns hd hf => exact .inl ⟨rfl, rfl⟩
  | releasing hns hd hf rest => exact .inl rest.untold
  | claiming hns hd hf o => exact .inl ⟨rfl, rfl⟩
  | serving hns hd hf _ =>
    have served := body_runs
    simp only [body, hns, hd, hf, Bool.false_eq_true, if_false, if_true] at served
    rcases serve_tells hns served with
      ⟨-, reads, -⟩ | ⟨f, lead, told, rfl, -, silent, -, tells⟩
    · obtain ⟨none_told, none_stored, -⟩ := untold_of_silent fun d hd => (reads d hd).silent
      exact .inl ⟨none_told, none_stored⟩
    · obtain ⟨none_told, none_stored, none_lost⟩ := untold_of_silent silent
      rw [verdicts_append, List.filterMap_append, lost_append, none_told, none_stored, none_lost,
        List.nil_append, List.nil_append, Bool.false_or, Grant.key_eq hns]
      rcases tells.announces with quiet | ⟨changed, unlost, written, stored, news⟩
      · exact .inl quiet
      · exact .inr ⟨f, hd, changed, unlost,
          List.mem_append_left _ (List.mem_append_right _ written), stored, news⟩

end GrantPass

/-! ## Once, and only what is new -/

/-- A status that was written, although only its conditions are others than before, has conditions
that differ in more than times. -/
lemma Grant.conditions_differ {g : Grant} {s : GrantStatus}
    (changed : g.status.any (·.equivalent s) = false) (some_condition : s.conditions ≠ [])
    (others : { g.statusOrEmpty with conditions := s.conditions } = s) :
    Condition.equivalent g.statusOrEmpty.conditions s.conditions = false := by
  refine Bool.eq_false_iff.2 fun same => ?_
  cases hs : g.status with
  | none =>
    rw [statusOrEmpty, hs, Option.getD_none] at same
    cases some : s.conditions with
    | nil => exact some_condition some
    | cons c rest => simp [some, Condition.equivalent] at same
  | some t =>
    have present : g.statusOrEmpty = t := by simp [statusOrEmpty, hs]
    rw [present] at same others
    have equivalent : t.equivalent s = true := by
      rw [GrantStatus.equivalent_iff, ← others]
      exact ⟨same, rfl, rfl, rfl, rfl⟩
    simp [hs, equivalent] at changed

/-- Conditions that differ from others at most in times are those of a grant that is ready if these
are. -/
lemma GrantStatus.isReady_of_equivalent {s t : GrantStatus} (h : t.IsReady)
    (same : Condition.equivalent s.conditions t.conditions = true) : s.IsReady := by
  obtain ⟨c, found, holds⟩ := isReady_iff.1 h
  obtain ⟨a, found', like⟩ := Condition.find?_of_equivalent same found
  exact isReady_iff.2 ⟨a, found', (Condition.sameState_iff.1 like).2.1.trans holds⟩

/-- What is announced differs from what was stored in more than times. -/
lemma Finding.conditions_differ {now : Timestamp} {g : Grant} {f : Finding}
    (kept : g.isDeleting = false) (changed : g.status.any (·.equivalent (f.status now g)) = false)
    (news : f.event? g ≠ none) :
    Condition.equivalent g.statusOrEmpty.conditions (f.status now g).conditions = false := by
  have some_condition : (f.status now g).conditions ≠ [] := f.conditions_status_ne_nil
  cases f with
  | rejected rej => exact Grant.conditions_differ changed some_condition rfl
  | failed failure => exact Grant.conditions_differ changed some_condition rfl
  | provisioned p result =>
    refine Bool.eq_false_iff.2 fun same => news (event?_eq_none_iff.2 ⟨rfl, ?_⟩)
    have ready : ((provisioned p result).status now g).IsReady := state_status _ now g
    have before : g.statusOrEmpty.IsReady := GrantStatus.isReady_of_equivalent ready same
    rw [Grant.state, kept, if_neg (by simp)]
    exact before

/-- What a pass announces about its grant: events about the grant as a whole, that is, events which
bear a reason of its conditions. -/
structure GrantPass.Announced (g : Grant) (ds : List Deed) : Prop where
  /-- There is at most one. -/
  once : (verdicts ds).length ≤ 1
  /-- It is published in a pass that wrote a status whose conditions differ from the stored ones in
  more than times, and bears the reason of the condition `Ready` there. -/
  written : ∀ (e : Event) (reason : GrantReason), .publish e ∈ ds → e.reason = reason.text →
    ∃ s c, .request (.patchGrantStatus g.key s) (.ok ()) ∈ ds ∧
      Condition.equivalent g.statusOrEmpty.conditions s.conditions = false ∧
      s.verdict? = some c ∧ c.reason = e.reason
  /-- If the status cannot be written, there is none. -/
  unwritten : lost ds = true → ∀ (e : Event) (reason : GrantReason), .publish e ∈ ds →
    e.reason ≠ reason.text
  /-- If the status that is written is not that of a grant that is ready, there is one. -/
  told : ∀ s, .request (.patchGrantStatus g.key s) (.ok ()) ∈ ds → ¬ s.IsReady →
    ∃ (e : Event) (reason : GrantReason), .publish e ∈ ds ∧ e.reason = reason.text

namespace GrantPass

variable {now : Timestamp} {g : Grant} {ds : List Deed} {r : Except ReconcileFailure Action}

/-- A pass announces what it has found, or nothing. -/
lemma announced_of_runs (h : (reconcileGrant now g).run.Runs ds r) : Announced g ds := by
  have stored_of_mem : ∀ {s : GrantStatus},
      .request (.patchGrantStatus g.key s) (.ok ()) ∈ ds → s ∈ ds.filterMap Deed.stored? :=
    fun written => List.mem_filterMap.2 ⟨_, written, rfl⟩
  rcases announces_of_runs h with
    ⟨silent, unstored⟩ | ⟨f, kept, changed, unlost, written, stored, told⟩
  · have none_told : ∀ (e : Event) (reason : GrantReason), .publish e ∈ ds →
        e.reason ≠ reason.text := by
      intro e reason published said
      simpa [silent] using mem_verdicts.2 ⟨published, reason, said⟩
    refine ⟨by simp [silent], ?_, fun _ => none_told, fun s hs => ?_⟩
    · exact fun e reason published said => absurd said (none_told e reason published)
    · simpa [unstored] using stored_of_mem hs
  · refine ⟨?_, ?_, fun lost => by simp [unlost] at lost, fun s hs unready => ?_⟩
    · rw [told]
      cases f.event? g <;> simp
    · intro e reason published said
      have news : f.event? g = some e := by
        simpa [told] using mem_verdicts.2 ⟨published, reason, said⟩
      obtain ⟨c, found, -, bears, -⟩ := f.verdict_status now g
      exact ⟨f.status now g, c, written, f.conditions_differ kept changed (by simp [news]), found,
        bears.trans (Finding.reason_of_event? news).symm⟩
    · obtain rfl : s = f.status now g := by simpa [stored] using stored_of_mem hs
      cases news : f.event? g with
      | none =>
        have made := (Finding.event?_eq_none_iff.1 news).1
        exact absurd ((f.state_status now g).trans (Finding.state_eq_ready_iff.2 made)) unready
      | some e =>
        have announced : e ∈ verdicts ds := by simp [told, news]
        obtain ⟨published, reason, said⟩ := mem_verdicts.1 announced
        exact ⟨e, reason, published, said⟩

end GrantPass

/-! ## Histories of statuses -/

/-- The statuses that are stored for grants. -/
abbrev StoredStatuses := ObjectKey → Option GrantStatus

/-- Whether a stored status tells that the grant is ready; without one nothing is known. -/
def showsReady (s : Option GrantStatus) : Bool :=
  GrantState.ofConditions (s.getD {}).conditions = .ready

/-- What a status may have become after some deeds: the conditions are those of the status that was
stored last, whatever a merge has kept of the rest; if none was stored, all is as before. -/
def Leaves (before : Option GrantStatus) (ds : List Deed) (after : Option GrantStatus) : Prop :=
  match (ds.filterMap Deed.stored?).getLast? with
  | none => after = before
  | some s => ∃ t, after = some t ∧ t.conditions = s.conditions

/-- A status that takes the place of the old one is left. -/
lemma leaves_storedAfter (before : Option GrantStatus) (ds : List Deed) :
    Leaves before ds (storedAfter before ds) := by
  unfold Leaves storedAfter
  cases (ds.filterMap Deed.stored?).getLast? <;> simp

/-- A status that is merged into the old one leaves its conditions. -/
lemma leaves_laidOver {before : Option GrantStatus} {ds : List Deed} {s : GrantStatus}
    (stored : ds.filterMap Deed.stored? = [s]) (some_condition : s.conditions ≠ []) :
    Leaves before ds (some (s.laidOver (before.getD {}))) := by
  simp [Leaves, stored, GrantStatus.laidOver, some_condition]

/-- The passes over any grants, each with what it did, and the statuses that were stored, both with
the latest first.  Each pass finds its grant with the status that is stored for it; all else about
the grant and the world is open, and so is which requests of the pass fail.  A grant may be removed,
and another of its name begins without a status. -/
inductive StatusHistory : List (Grant × List Deed) → List StoredStatuses → Prop where
  | start (stored : StoredStatuses) : StatusHistory [] [stored]
  /-- A grant is removed. -/
  | removed {past : List (Grant × List Deed)} {stored : StoredStatuses}
      {trail : List StoredStatuses} (before : StatusHistory past (stored :: trail))
      (key : ObjectKey) :
      StatusHistory past (Function.update stored key none :: stored :: trail)
  /-- A pass takes place. -/
  | pass {past : List (Grant × List Deed)} {stored : StoredStatuses}
      {trail : List StoredStatuses} {now : Timestamp} {g : Grant} {ds : List Deed}
      {r : Except ReconcileFailure Action} {after : Option GrantStatus}
      (before : StatusHistory past (stored :: trail)) (found : g.status = stored g.key)
      (runs : (reconcileGrant now g).run.Runs ds r) (leaves : Leaves g.status ds after) :
      StatusHistory ((g, ds) :: past) (Function.update stored g.key after :: stored :: trail)

/-- How often a grant was announced to have become ready. -/
def readyAnnouncements (key : ObjectKey) (past : List (Grant × List Deed)) : Nat :=
  ((past.filter (·.1.key = key)).map (·.2.countP Deed.announcesReady)).sum

/-- How often the status that is stored for a grant has become one of a grant that is ready. -/
def readyTurns (key : ObjectKey) : List StoredStatuses → Nat
  | after :: before :: rest =>
    (!showsReady (before key) && showsReady (after key)).toNat + readyTurns key (before :: rest)
  | _ => 0

/-- A pass announces that its grant is ready exactly if its status becomes that. -/
lemma GrantPass.countP_announcesReady {now : Timestamp} {g : Grant} {ds : List Deed}
    {r : Except ReconcileFailure Action} {after : Option GrantStatus}
    (h : (reconcileGrant now g).run.Runs ds r) (leaves : Leaves g.status ds after) :
    ds.countP Deed.announcesReady = (!showsReady g.status && showsReady after).toNat := by
  rw [CredentialOperator.countP_announcesReady]
  rcases announces_of_runs h with ⟨silent, unstored⟩ | ⟨f, kept, -, -, -, stored, told⟩
  · obtain rfl : after = g.status := by simpa [Leaves, unstored] using leaves
    simp [silent]
  · obtain ⟨t, rfl, conditions⟩ : ∃ t, after = some t ∧
        t.conditions = (f.status now g).conditions := by simpa [Leaves, stored] using leaves
    have ready : showsReady (some t) = f.isMade := by
      rw [showsReady, Option.getD_some, conditions, f.state_status now g, Bool.eq_iff_iff,
        decide_eq_true_eq, Finding.state_eq_ready_iff]
    have state : g.state = .ready ↔ showsReady g.status = true := by
      simp [Grant.state, kept, showsReady, Grant.statusOrEmpty]
    rw [told, ready]
    cases news : f.event? g with
    | none =>
      obtain ⟨made, was_ready⟩ := Finding.event?_eq_none_iff.1 news
      simp [made, state.1 was_ready]
    | some e =>
      have said := Finding.reason_of_event? news
      have fresh : ¬ (f.isMade = true ∧ showsReady g.status = true) := by
        rw [← state, ← Finding.event?_eq_none_iff, news]
        simp
      cases made : f.isMade with
      | true =>
        have reason := Finding.reason_eq_credentialReady_iff.2 made
        have before : showsReady g.status = false := by simpa [made] using fresh
        simp [said, reason, before]
      | false =>
        have other : ¬ e.reason = GrantReason.credentialReady.text := by
          rw [said]
          intro same
          have reason := Finding.reason_eq_credentialReady_iff.1 (GrantReason.text_injective same)
          simp [made] at reason
        simp [other]

namespace StatusHistory

variable {past : List (Grant × List Deed)} {trail : List StoredStatuses}

lemma announced (h : StatusHistory past trail) : ∀ v ∈ past, GrantPass.Announced v.1 v.2 := by
  induction h with
  | start => simp
  | removed _ _ ih => exact ih
  | pass _ _ runs _ ih =>
    exact List.forall_mem_cons.2 ⟨GrantPass.announced_of_runs runs, ih⟩

/-- The removal of a grant makes no grant ready. -/
lemma readyTurns_removed (key other : ObjectKey) (stored : StoredStatuses)
    (trail : List StoredStatuses) :
    readyTurns key (Function.update stored other none :: stored :: trail) =
      readyTurns key (stored :: trail) := by
  by_cases mine : key = other
  · subst mine
    have nothing : showsReady none = false := by decide
    simp [readyTurns, nothing]
  · simp [readyTurns, Function.update_of_ne mine]

/-- The announcements and the turns of a grant add up step by step. -/
lemma announcements (h : StatusHistory past trail) (key : ObjectKey) :
    readyAnnouncements key past = readyTurns key trail := by
  induction h with
  | start => rfl
  | removed _ other ih => rw [readyTurns_removed, ih]
  | @pass past stored trail now g ds r after _ found runs leaves ih =>
    by_cases mine : g.key = key
    · subst mine
      have step := GrantPass.countP_announcesReady runs leaves
      rw [found] at step
      rw [readyTurns, Function.update_self, ← step, ← ih]
      simp [readyAnnouncements]
    · rw [readyTurns, Function.update_of_ne (Ne.symm mine), ← ih]
      simp [readyAnnouncements, mine]

end StatusHistory

/-- In every history of passes, edits and failures a grant is announced to have become ready as
often as the status that is stored for it becomes that of a grant that is ready.  Each pass
announces at most one thing about its grant, in an event that bears the reason of the condition
`Ready` which the pass has written, and it has written conditions that differ from the stored ones
in more than times; if the status cannot be written, it announces nothing. -/
theorem announcements_mark_transitions {past : List (Grant × List Deed)}
    {trail : List StoredStatuses} (h : StatusHistory past trail) :
    (∀ key, readyAnnouncements key past = readyTurns key trail) ∧
      ∀ v ∈ past, GrantPass.Announced v.1 v.2 :=
  ⟨h.announcements, h.announced⟩

/-- The grant of the small cluster is announced to have become ready when its artifact was made for
the first time. -/
theorem sample_announcements_mark_transitions :
    ∃ ds after, StatusHistory [(Sample.rotating, ds)]
        [Function.update (fun _ => none) Sample.rotating.key after, fun _ => none] ∧
      readyAnnouncements Sample.rotating.key [(Sample.rotating, ds)] = 1 := by
  obtain ⟨ds, a, o', s, runs, -, undisturbed, after, next⟩ := Sample.makes_artifact
  have stored : storedAfter Sample.rotating.status ds = some s :=
    (Sample.stored_of_undisturbed undisturbed).trans after
  have history := (StatusHistory.start fun _ => none).pass (g := Sample.rotating) rfl runs
    (leaves_storedAfter _ ds)
  rw [stored] at history
  refine ⟨ds, some s, history, ?_⟩
  have ready : showsReady (some s) = true := by
    rcases GrantPass.stored_of_runs runs with kept | ⟨t, stored', computed⟩
    · cases kept.symm.trans stored
    · obtain rfl := Option.some.inj (stored.symm.trans stored')
      -- only a pass that made the artifact plans a rotation
      cases computed with
      | rejected rej => cases next
      | failed message => cases next
      | provisioned result _ =>
        exact decide_eq_true (Finding.state_status (.provisioned _ result) _ _)
  have nothing : showsReady none = false := by decide
  rw [(announcements_mark_transitions history).1]
  simp [readyTurns, nothing, ready]

end CredentialOperator
