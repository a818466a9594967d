import CredentialOperator.Proofs.Cluster.Readings
import CredentialOperator.Proofs.Reconcile.Counters

/-!
# What the gauge of grants shows

All grants of a provider and a namespace share two readings of the gauge, one for those that are
ready and one for those that are not.  A pass knows nothing but its own grant: where it records
whether the grant is ready, it shows one, whatever stood there, and leaves the reading alone to
which the grant contributed before.  So a reading is one as soon as any grant has been there and for
ever after (`grants_gauge`), and tells the number of grants only if this is one.
-/

namespace CredentialOperator

/-! ## Readiness recorded -/

/-- What is recorded about a grant: its provider, its namespace, and whether it is ready. -/
structure Readiness where
  provider : String
  ns : String
  ready : Bool
deriving DecidableEq

namespace Readiness

/-- The measurement by which it is recorded. -/
def measurement (x : Readiness) : Measurement := .grantReadiness x.provider x.ns x.ready

/-- The reading of the gauge that shows a value for it. -/
def reading (x : Readiness) (value : Int) : Reading :=
  ⟨"keygate_grants_total", x.measurement.labels, value⟩

variable {x : Readiness}

/-- The gauge has a reading of its own for each readiness. -/
lemma measures_iff {m : Measurement} :
    m.instrument = "keygate_grants_total" ∧ m.labels = x.measurement.labels ↔
      m = x.measurement := by
  constructor
  · rintro ⟨gauge, labels⟩
    cases m with
    | grantReadiness provider ns ready =>
      obtain ⟨provider', ns', ready'⟩ := x
      cases ready <;> cases ready' <;> simp_all [measurement, Measurement.labels]
    | _ => simp [Measurement.instrument] at gauge
  · rintro rfl
    exact ⟨rfl, rfl⟩

/-- Whatever the gauge shows, it shows one once the readiness is recorded. -/
lemma take_eq (t : Tally) (m : Measurement) :
    t.take m "keygate_grants_total" x.measurement.labels =
      if m = x.measurement then some 1 else t "keygate_grants_total" x.measurement.labels := by
  by_cases recorded : m = x.measurement
  · subst recorded
    simp [Tally.take, measurement, Measurement.instrument, Measurement.effect, Effect.onto]
  · have other := mt measures_iff.1 recorded
    simp only [Tally.take, if_neg other, if_neg recorded]

lemma foldl_take_eq (ms : List Measurement) (t : Tally) :
    ms.foldl Tally.take t "keygate_grants_total" x.measurement.labels =
      if x.measurement ∈ ms then some 1 else t "keygate_grants_total" x.measurement.labels := by
  induction ms generalizing t with
  | nil => simp
  | cons m rest ih =>
    rw [List.foldl_cons, ih, take_eq]
    by_cases later : x.measurement ∈ rest <;> by_cases first : m = x.measurement <;>
      simp [later, first, eq_comm]

/-- The gauge shows one for what has been recorded, and nothing for what has not. -/
lemma mem_summarize_iff {ms : List Measurement} {value : Int} :
    x.reading value ∈ Measurement.summarize ms ↔ value = 1 ∧ x.measurement ∈ ms := by
  rw [Measurement.mem_summarize]
  simp only [reading, foldl_take_eq]
  by_cases recorded : x.measurement ∈ ms <;> simp [recorded, eq_comm]

end Readiness

/-- The readiness that a deed records, if it does. -/
def Deed.readiness? : Deed → Option Readiness
  | .measure (.grantReadiness provider ns ready) => some ⟨provider, ns, ready⟩
  | _ => none

/-- The readiness that deeds record, in order. -/
def recordings (ds : List Deed) : List Readiness := ds.filterMap Deed.readiness?

section

variable {ds es : List Deed} {x : Readiness}

/-- Deeds that record nothing can be left out. -/
lemma recordings_filter : recordings (ds.filter (·.readiness?.isSome)) = recordings ds := by
  rw [recordings, List.filterMap_filter]
  refine List.filterMap_congr fun d _ => ?_
  cases d.readiness? <;> rfl

@[simp] lemma recordings_nil : recordings [] = [] := rfl

lemma recordings_append : recordings (ds ++ es) = recordings ds ++ recordings es :=
  List.filterMap_append

lemma recordings_eq_nil (h : ∀ d ∈ ds, d.readiness? = none) : recordings ds = [] :=
  List.filterMap_eq_nil_iff.2 h

lemma mem_recordings : x ∈ recordings ds ↔ x.measurement ∈ measurements ds := by
  rw [mem_measurements, recordings, List.mem_filterMap]
  constructor
  · rintro ⟨d, done, records⟩
    unfold Deed.readiness? at records
    split at records
    · obtain rfl := Option.some.inj records
      exact done
    · cases records
  · intro done
    exact ⟨_, done, rfl⟩

lemma Deed.Reads.unrecorded {d : Deed} (h : d.Reads) : d.readiness? = none := by
  cases d with
  | request r o => rfl
  | publish e => rfl
  | measure m => exact absurd h id

lemma Deed.unrecorded_of_applies {d : Deed} (h : d.applies = true) : d.readiness? = none := by
  cases d with
  | request r o => rfl
  | publish e => rfl
  | measure m => cases h

end

/-- What is recorded after a finding. -/
def Finding.readiness (f : Finding) (g : Grant) (ns : String) : Readiness where
  provider :=
    match f with
    | .rejected _ | .failed _ => g.spec.provider
    | .provisioned p _ => p.name
  ns := ns
  ready := f.isMade

namespace GrantPass

variable {now : Timestamp} {g : Grant} {ns : String} {ds : List Deed} {f : Finding}
  {r : Except ReconcileFailure Action}

/-- A report records what comes last, unless the status is lost. -/
lemma Report.records {s : GrantStatus} {before news after : List Deed} {a : Action}
    (h : Report g ns s before news after a ds r)
    (quiet : ∀ d, d ∈ before ∨ d ∈ news ∨ d ∈ after → d.Quiet)
    (first : recordings before = []) (second : recordings news = []) :
    recordings ds = if lost ds then [] else recordings after := by
  have unheard : ∀ d ∈ news, d.readiness?.isSome = false := fun d hd => by
    simp [List.filterMap_eq_nil_iff.1 second d hd]
  rw [← recordings_filter, h.filter quiet (fun _ _ _ => rfl) unheard, recordings_append,
    recordings_filter, first, List.nil_append]
  cases lost ds <;> simp [recordings_filter]

lemma Rejected.records {rej : Rejection} (h : Rejected now g ns rej ds r) :
    recordings ds = if lost ds then [] else [(Finding.rejected rej).readiness g ns] :=
  Report.records h (fun _ => quiet_rejection) rfl rfl

lemma Failed.records {e : ProvisionFailure} (h : Failed now g ns e ds r) :
    recordings ds = if lost ds then [] else [(Finding.failed e).readiness g ns] :=
  Report.records h (fun _ => quiet_failure) rfl rfl

lemma Provisioned.records {p : Provider} {result : ProvisionResult} {look : List Deed}
    (h : Provisioned now g ns p result look ds r) (reads : ∀ d ∈ look, d.Reads) :
    recordings ds = if lost ds then [] else [(Finding.provisioned p result).readiness g ns] := by
  have first : recordings (rotationDeeds now g ns p) = [] := by
    unfold rotationDeeds
    split <;> rfl
  have second : recordings (readyNews g result) = [] := by
    unfold readyNews
    split <;> rfl
  have last : recordings (readyDeeds now g ns p ++ look) =
      [(Finding.provisioned p result).readiness g ns] := by
    rw [recordings_append, recordings_eq_nil fun d hd => (reads d hd).unrecorded, readyDeeds]
    cases (rotationOf now g p).next <;> rfl
  rw [Report.records h (fun _ => quiet_provisioned reads) first second, last]

/-- What is told about a finding is recorded, unless the status is lost. -/
lemma Tells.records (h : Tells now g ns f ds r) :
    recordings ds = if lost ds then [] else [f.readiness g ns] := by
  cases f with
  | rejected rej => exact Rejected.records h
  | failed e => exact Failed.records h
  | provisioned p result =>
    obtain ⟨look, reads, report⟩ := h
    exact Provisioned.records report reads

/-! ### Passes -/

/-- A pass over a grant that is to be served finds something out about it. -/
structure Concludes (now : Timestamp) (g : Grant) (ns : String) (ds : List Deed) (f : Finding) :
    Prop where
  home : g.metadata.ns = some ns
  kept : g.isDeleting = false
  claimed : hasFinalizer g = true
  finds : Finds now g ns ds f

lemma recordings_endDeeds : recordings (Pass.endDeeds .grants r) = [] := by
  cases r <;> rfl

/-- A release records nothing. -/
lemma Releasing.recordings_eq_nil (h : Releasing g ns ds r) : recordings ds = [] := by
  cases h with
  | providerUnread | unserved => rfl
  | @unremoved _ s => cases s <;> rfl
  | @removed _ s => cases s <;> rfl

/-- Only a pass over a grant that is to be served records anything. -/
lemma Course.recordings_eq_nil (h : Course now g ds r)
    (other : ¬ (g.metadata.ns.isSome ∧ g.isDeleting = false ∧ hasFinalizer g = true)) :
    recordings ds = [] := by
  cases h with
  | homeless | released | claiming => rfl
  | releasing hns hd hf rest => exact rest.recordings_eq_nil
  | serving hns hd hf rest => exact absurd ⟨by simp [hns], hd, hf⟩ other

/-- A pass records what it concludes, unless the status is lost, and nothing else. -/
lemma records_of_runs (h : (reconcileGrant now g).run.Runs ds r) :
    (∃ ns f, Concludes now g ns ds f ∧
      recordings ds = if lost ds then [] else [f.readiness g ns]) ∨
    (recordings ds = [] ∧ ∀ ns f, ¬ Concludes now g ns ds f) := by
  by_cases served : g.metadata.ns.isSome ∧ g.isDeleting = false ∧ hasFinalizer g = true
  · obtain ⟨home, kept, claimed⟩ := served
    obtain ⟨ns, hns⟩ := Option.isSome_iff_exists.1 home
    obtain ⟨es, runs, rfl⟩ := Pass.runs_measured.1 h
    simp only [body, hns, kept, claimed, Bool.false_eq_true, if_false, if_true] at runs
    rcases serve_tells hns runs with
      ⟨-, reads, nothing⟩ | ⟨f, lead, told, rfl, finds, -, mild, tells⟩
    · refine .inr ⟨?_, fun ns' f concludes => ?_⟩
      · rw [recordings_append, recordings_endDeeds,
          recordings_eq_nil fun d hd => (reads d hd).unrecorded, List.append_nil]
      · obtain rfl := Option.some.inj (hns.symm.trans concludes.home)
        exact nothing f _ concludes.finds
    · refine .inl ⟨ns, f, ⟨hns, kept, claimed, finds.append _⟩, ?_⟩
      have unheard : recordings lead = [] := recordings_eq_nil fun d hd =>
        (mild d hd).elim Deed.Reads.unrecorded Deed.unrecorded_of_applies
      have unlost : lost lead = false := (counts_of_idle fun d hd =>
        (mild d hd).elim Deed.Reads.idle Deed.idle_of_applies).2.2.1
      have unlost' : lost (Pass.endDeeds .grants r) = false := (counts_of_idle idle_endDeeds).2.2.1
      simp [recordings_append, unheard, recordings_endDeeds, tells.records, lost_append, unlost,
        unlost']
  · obtain ⟨es, course, rfl⟩ := course_of_runs h
    refine .inr ⟨?_, fun ns f concludes => served ?_⟩
    · rw [recordings_append, course.recordings_eq_nil served, recordings_endDeeds,
        List.append_nil]
    · exact ⟨by simp [concludes.home], concludes.kept, concludes.claimed⟩

end GrantPass

/-! ## Histories -/

namespace Visit

variable {v : Visit} {x : Readiness} {r : Except ReconcileFailure Action}

/-- The readiness that a pass records, if it does. -/
def recorded? (v : Visit) : Option Readiness := (recordings v.deeds).head?

/-- A pass records what it found, if it found something and the status is not lost. -/
lemma recorded?_eq_some (h : (reconcileGrant v.now v.grant).run.Runs v.deeds r) :
    v.recorded? = some x ↔ ∃ ns f, GrantPass.Concludes v.now v.grant ns v.deeds f ∧
      lost v.deeds = false ∧ x = f.readiness v.grant ns := by
  unfold recorded?
  rcases GrantPass.records_of_runs h with ⟨ns, f, concludes, recorded⟩ | ⟨recorded, nothing⟩
  · rw [recorded]
    constructor
    · cases written : lost v.deeds with
      | true => simp
      | false =>
        intro same
        exact ⟨ns, f, concludes, rfl, by simpa [eq_comm] using same⟩
    · rintro ⟨ns', f', concludes', written, rfl⟩
      obtain rfl := Option.some.inj (concludes.home.symm.trans concludes'.home)
      obtain rfl := concludes.finds.unique concludes'.finds
      simp [written]
  · rw [recorded]
    constructor
    · intro same
      cases same
    · rintro ⟨ns, f, concludes, -⟩
      exact absurd concludes (nothing ns f)

/-- A pass records nothing else. -/
lemma mem_measurements_iff (h : (reconcileGrant v.now v.grant).run.Runs v.deeds r) :
    x.measurement ∈ measurements v.deeds ↔ v.recorded? = some x := by
  rw [← mem_recordings, recorded?]
  rcases GrantPass.records_of_runs h with ⟨ns, f, -, recorded⟩ | ⟨recorded, -⟩
  · rw [recorded]
    cases lost v.deeds <;> simp [eq_comm]
  · simp [recorded]

end Visit

/-- What the instruments show after some passes, of which the latest comes first. -/
def shownAfter (past : List Visit) : List Reading :=
  Measurement.summarize (past.reverse.flatMap (measurements ·.deeds))

/-- The readiness that was recorded last for the grant with a key. -/
def standing (past : List Visit) (key : ObjectKey) : Option Readiness :=
  (past.filter (·.grant.key = key)).findSome? Visit.recorded?

/-- The number of grants for which a readiness was recorded last. -/
def grantsStanding (past : List Visit) (x : Readiness) : Nat :=
  ((past.map (·.grant.key)).dedup.filter (standing past · = some x)).length

lemma standing_cons {past : List Visit} {v : Visit} {key : ObjectKey} :
    standing (v :: past) key =
      if v.grant.key = key then v.recorded?.or (standing past key) else standing past key := by
  by_cases mine : v.grant.key = key
  · cases recorded : v.recorded? <;> simp [standing, mine, recorded]
  · simp [standing, mine]

/-- What stands for a grant was recorded by a pass. -/
lemma recorded_of_standing {past : List Visit} {x : Readiness} (h : 0 < grantsStanding past x) :
    ∃ v ∈ past, v.recorded? = some x := by
  obtain ⟨key, stands⟩ := List.exists_mem_of_length_pos h
  have last : standing past key = some x := of_decide_eq_true (List.mem_filter.1 stands).2
  obtain ⟨v, visited, recorded⟩ := List.exists_of_findSome?_eq_some last
  exact ⟨v, (List.mem_filter.1 visited).1, recorded⟩

namespace Chronicle

variable {start : Objects} {past : List Visit} {trail : List Objects} {x : Readiness}

lemma runs (h : Chronicle start past trail) :
    ∀ v ∈ past, ∃ r, (reconcileGrant v.now v.grant).run.Runs v.deeds r := by
  induction h with
  | start => simp
  | edit _ _ ih => exact ih
  | pass _ _ pass _ ih => exact List.forall_mem_cons.2 ⟨⟨_, pass.runs⟩, ih⟩

/-- A reading of the gauge is one, and is there if some pass has recorded its readiness. -/
lemma mem_shownAfter (h : Chronicle start past trail) {value : Int} :
    x.reading value ∈ shownAfter past ↔ value = 1 ∧ ∃ v ∈ past, v.recorded? = some x := by
  rw [shownAfter, Readiness.mem_summarize_iff, List.mem_flatMap]
  simp only [List.mem_reverse]
  refine and_congr_right fun _ => exists_congr fun v => and_congr_right fun visited => ?_
  obtain ⟨r, runs⟩ := h.runs v visited
  exact Visit.mem_measurements_iff runs

end Chronicle

/-- What the gauge of grants shows after any passes, among which others edit the cluster, and of
whose requests any may fail.  A pass records the readiness that it found, if it found something out
and the status is not lost.  The reading for a readiness is there as soon as some pass has recorded
it, whether or not any grant still stands there, and is one.  So it tells the number of grants for
which this readiness was recorded last exactly if this number is one. -/
theorem grants_gauge {start : Objects} {past : List Visit} {trail : List Objects}
    (h : Chronicle start past trail) :
    (∀ v ∈ past, ∀ x, v.recorded? = some x ↔
      ∃ ns f, GrantPass.Concludes v.now v.grant ns v.deeds f ∧ lost v.deeds = false ∧
        x = f.readiness v.grant ns) ∧
    ∀ x : Readiness,
      (∀ value, x.reading value ∈ shownAfter past ↔
        value = 1 ∧ ∃ v ∈ past, v.recorded? = some x) ∧
      (0 < grantsStanding past x → x.reading 1 ∈ shownAfter past) ∧
      ((∀ value, x.reading value ∈ shownAfter past → value = grantsStanding past x) ↔
        grantsStanding past x = 1 ∨ ∀ v ∈ past, v.recorded? ≠ some x) := by
  refine ⟨fun v visited x => ?_, fun x => ⟨fun value => h.mem_shownAfter, fun some_grant => ?_, ?_⟩⟩
  · obtain ⟨r, runs⟩ := h.runs v visited
    exact Visit.recorded?_eq_some runs
  · exact h.mem_shownAfter.2 ⟨rfl, recorded_of_standing some_grant⟩
  · constructor
    · intro right
      by_cases recorded : ∃ v ∈ past, v.recorded? = some x
      · have one : (1 : Int) = grantsStanding past x := right 1 (h.mem_shownAfter.2 ⟨rfl, recorded⟩)
        exact .inl (by omega)
      · exact .inr fun v visited same => recorded ⟨v, visited, same⟩
    · rintro (one | never) value shown
      · rw [(h.mem_shownAfter.1 shown).1, one]
        rfl
      · obtain ⟨-, v, visited, recorded⟩ := h.mem_shownAfter.1 shown
        exact absurd recorded (never v visited)

namespace Sample

/-- Another grant of the provider and the namespace. -/
def search : Grant :=
  { grant with metadata.name := some "search", spec.secretName := "search-key" }

/-- The small cluster with both grants. -/
def twoObjects : Objects :=
  { objects with grants := objects.grants.insert search.key search }

/-- What is recorded about either grant once its artifact was made. -/
def served : Readiness := ⟨"openai", "team", true⟩

variable {o : Objects}

/-- If nothing fails, a pass over a grant makes the artifact and records that the grant is ready. -/
lemma pass_served {g : Grant} (hns : g.metadata.ns = some "team")
    (cleared : o.Cleared g "team" provider) (key : o.HoldsKey provider) :
    ∃ ds r o', PassIn .epoch o g ds r o' ∧ GrantPass.Called .epoch g ds (some true) ∧
      Visit.recorded? ⟨.epoch, g, ds, some true⟩ = some served := by
  obtain ⟨ds, a, o', result, runs, allowed, undisturbed, made⟩ :=
    GrantPass.made_of_cleared hns cleared key .epoch
  refine ⟨ds, _, o', ⟨runs, allowed⟩, GrantPass.called_of_finds hns made, ?_⟩
  have kept : g.isDeleting = false := by simp [Grant.isDeleting, cleared.kept]
  have claimed : GrantPass.hasFinalizer g = true := by
    simpa [GrantPass.hasFinalizer] using cleared.claimed
  exact (Visit.recorded?_eq_some runs).2 ⟨"team", _, ⟨hns, kept, claimed, made⟩,
    lost_eq_false_of_undisturbed undisturbed, rfl⟩

end Sample

/-- In the small cluster the gauge shows the one grant that there is. -/
theorem sample_grants_gauge :
    ∃ ds o', Chronicle Sample.objects [⟨.epoch, Sample.grant, ds, some true⟩]
        [o', Sample.objects] ∧
      grantsStanding [⟨.epoch, Sample.grant, ds, some true⟩] Sample.served = 1 ∧
      Sample.served.reading 1 ∈ shownAfter [⟨.epoch, Sample.grant, ds, some true⟩] := by
  have stored : Sample.objects.grants[Sample.grant.key]? = some Sample.grant := by
    simp [Sample.objects]
  obtain ⟨ds, r, o', pass, called, recorded⟩ :=
    Sample.pass_served Sample.at_home Sample.cleared Sample.holdsKey
  have chronicle := Chronicle.start.pass stored pass called
  have one : grantsStanding [⟨.epoch, Sample.grant, ds, some true⟩] Sample.served = 1 := by
    have keys : [Sample.grant.key].dedup = [Sample.grant.key] := by decide
    simp [grantsStanding, standing_cons, recorded, keys]
  refine ⟨ds, o', chronicle, one, ?_⟩
  exact ((grants_gauge chronicle).2 Sample.served).2.1 (by rw [one]; decide)

/-- Two grants of one provider and namespace are ready, and the gauge shows one. -/
theorem gauge_misses_grant :
    ∃ ds₁ ds₂ o₁ o₂,
      Chronicle Sample.twoObjects
        [⟨.epoch, Sample.search, ds₂, some true⟩, ⟨.epoch, Sample.grant, ds₁, some true⟩]
        [o₂, o₁, Sample.twoObjects] ∧
      grantsStanding
        [⟨.epoch, Sample.search, ds₂, some true⟩, ⟨.epoch, Sample.grant, ds₁, some true⟩]
        Sample.served = 2 ∧
      ∀ value, Sample.served.reading value ∈ shownAfter
        [⟨.epoch, Sample.search, ds₂, some true⟩, ⟨.epoch, Sample.grant, ds₁, some true⟩] ↔
          value = 1 := by
  have other : Sample.search.key ≠ Sample.grant.key := by decide
  have stored : Sample.twoObjects.grants[Sample.grant.key]? = some Sample.grant := by
    decide +kernel
  have stored' : Sample.twoObjects.grants[Sample.search.key]? = some Sample.search := by
    simp [Sample.twoObjects]
  have cleared : Sample.twoObjects.Cleared Sample.grant "team" Sample.provider :=
    ⟨Sample.cleared.kept, Sample.cleared.claimed, Sample.cleared.found, Sample.cleared.served,
      Sample.cleared.permitted, Sample.cleared.declared⟩
  have cleared' : Sample.twoObjects.Cleared Sample.search "team" Sample.provider :=
    ⟨Sample.cleared.kept, Sample.cleared.claimed, Sample.cleared.found, Sample.cleared.served,
      Sample.cleared.permitted, Sample.cleared.declared⟩
  obtain ⟨ds₁, r₁, o₁, first, called₁, recorded₁⟩ :=
    Sample.pass_served Sample.at_home cleared Sample.holdsKey
  obtain ⟨ds₂, r₂, o₂, second, called₂, recorded₂⟩ :=
    Sample.pass_served (g := Sample.search) rfl (first.cleared cleared')
      (first.holdsKey Sample.holdsKey (Sample.master_apart (by decide)))
  have chronicle := (Chronicle.start.pass stored first called₁).pass
    ((first.others other).trans stored') second called₂
  refine ⟨ds₁, ds₂, o₁, o₂, chronicle, ?_, fun value => ?_⟩
  · have keys : [Sample.search.key, Sample.grant.key].dedup =
        [Sample.search.key, Sample.grant.key] := by decide
    simp [grantsStanding, standing_cons, recorded₁, recorded₂, keys, other]
  · rw [chronicle.mem_shownAfter]
    exact and_iff_left ⟨_, List.mem_cons_self .., recorded₂⟩

end CredentialOperator
