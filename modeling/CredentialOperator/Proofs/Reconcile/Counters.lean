import CredentialOperator.Proofs.Reconcile.Commuting
import CredentialOperator.Proofs.Reconcile.Outcomes

/-!
# What the counters of attempts and rotations add up to

Between making the artifact and counting the attempt a pass writes the status of the grant, and if
this fails the pass ends there.  A rotation, on the other hand, is counted before the status is
written that moves its date.  So a pass whose status cannot be written loses an attempt
(`Visit.loses`), and if a rotation was due it has counted one that the next pass makes again
(`Visit.repeats`); nothing else goes wrong.

`GrantPass.Counted` says what a single pass counts.  A `Chronicle` is made of passes over any
grants, each of which finds its grant as it is stored, while others change the cluster as they like
but for the statuses of grants.  The balance of its counters is drawn up in `counters_balance`.
-/

namespace CredentialOperator

/-! ## What deeds count -/

namespace Deed

/-- Whether a deed counts an attempt to make an artifact that went as told. -/
def countsAttempt (success : Bool) : Deed → Bool
  | .measure (.provisioning _ _ b) => b == success
  | _ => false

/-- Whether a deed is a request to write the status of a grant that fails. -/
def losesStatus : Deed → Bool
  | .request (.patchGrantStatus _ _) (.error _) => true
  | _ => false

/-- The deed counts neither an attempt nor a rotation, and is no request to write the status of a
grant. -/
def Idle : Deed → Prop
  | .request (.patchGrantStatus _ _) _ => False
  | .measure (.provisioning _ _ _) => False
  | .measure (.rotation _ _) => False
  | _ => True

lemma Reads.idle {d : Deed} (h : d.Reads) : d.Idle := by
  cases d with
  | request r o => cases r <;> trivial
  | publish e => trivial
  | measure m => exact absurd h id

lemma idle_of_applies {d : Deed} (h : d.applies = true) : d.Idle := by
  cases d with
  | request r o => cases r <;> trivial
  | publish e => trivial
  | measure m => cases h

/-- A deed that changes nothing writes no status. -/
lemma Quiet.unwriting {d : Deed} (h : d.Quiet) : d.stored? = none ∧ d.losesStatus = false := by
  cases d with
  | request r o => cases r <;> first | exact ⟨rfl, rfl⟩ | simp [Quiet, Request.reads] at h
  | publish e => exact ⟨rfl, rfl⟩
  | measure m => exact ⟨rfl, rfl⟩

end Deed

/-- The number of attempts that are counted, those that went as told. -/
def attempts (success : Bool) (ds : List Deed) : Nat := ds.countP (Deed.countsAttempt success)

/-- Whether a status could not be written. -/
def lost (ds : List Deed) : Bool := ds.any Deed.losesStatus

section

variable {ds es : List Deed}

lemma attempts_append {b : Bool} : attempts b (ds ++ es) = attempts b ds + attempts b es :=
  List.countP_append

lemma rotations_append : rotations (ds ++ es) = rotations ds + rotations es :=
  List.countP_append

lemma lost_cons {d : Deed} : lost (d :: ds) = (d.losesStatus || lost ds) := List.any_cons

lemma lost_append : lost (ds ++ es) = (lost ds || lost es) := List.any_append

lemma storedAfter_append {before : Option GrantStatus} :
    storedAfter before (ds ++ es) = storedAfter (storedAfter before ds) es := by
  simp only [storedAfter, List.filterMap_append, List.getLast?_append, Option.or_assoc]

/-- Idle deeds count nothing and store nothing. -/
lemma counts_of_idle (h : ∀ d ∈ ds, d.Idle) :
    (∀ b, attempts b ds = 0) ∧ rotations ds = 0 ∧ lost ds = false ∧
      ∀ before, storedAfter before ds = before := by
  have each : ∀ d ∈ ds, (∀ b, d.countsAttempt b = false) ∧ d.rotates = false ∧
      d.losesStatus = false ∧ d.stored? = none := by
    intro d hd
    have idle := h d hd
    match d, idle with
    | .publish _, _ => simp [Deed.countsAttempt, Deed.rotates, Deed.losesStatus, Deed.stored?]
    | .measure m, idle =>
      cases m <;>
        simp_all [Deed.Idle, Deed.countsAttempt, Deed.rotates, Deed.losesStatus, Deed.stored?]
    | .request r o, idle =>
      cases r <;>
        simp_all [Deed.Idle, Deed.countsAttempt, Deed.rotates, Deed.losesStatus, Deed.stored?]
  have none_stored : ds.filterMap Deed.stored? = [] :=
    List.filterMap_eq_nil_iff.2 fun d hd => (each d hd).2.2.2
  refine ⟨fun b => ?_, ?_, ?_, fun before => by simp [storedAfter, none_stored]⟩
  · exact List.countP_eq_zero.2 fun d hd => by simp [(each d hd).1 b]
  · exact List.countP_eq_zero.2 fun d hd => by simp [(each d hd).2.1]
  · exact List.any_eq_false.2 fun d hd => by simp [(each d hd).2.2.1]

/-- Deeds that change nothing write no status. -/
lemma unwritten_of_quiet (h : ∀ d ∈ ds, d.Quiet) :
    lost ds = false ∧ ds.filterMap Deed.stored? = [] :=
  ⟨List.any_eq_false.2 fun d hd => by simp [(h d hd).unwriting.2],
    List.filterMap_eq_nil_iff.2 fun d hd => (h d hd).unwriting.1⟩

lemma lost_eq_false_of_undisturbed (h : Undisturbed ds) : lost ds = false := by
  refine List.any_eq_false.2 fun d hd => ?_
  match d, h d hd with
  | .request r (.ok a), _ => cases r <;> simp [Deed.losesStatus]
  | .request r (.error e), calm => exact absurd Deed.fails_error calm
  | .publish _, _ | .measure _, _ => simp [Deed.losesStatus]

end

/-! ## What a pass counts -/

/-- The success of the attempt that a finding tells of, if there was one. -/
def Finding.success? : Finding → Option Bool
  | .rejected _ => none
  | .failed _ => some false
  | .provisioned _ _ => some true

namespace GrantPass

variable {now : Timestamp} {g : Grant} {ns : String} {ds es : List Deed} {f : Finding}
  {r : Except ReconcileFailure Action} {call : Option Bool} {o o' : Objects}

/-- Whether a pass calls upon a strategy to make the artifact, and how the call went. -/
def Called (now : Timestamp) (g : Grant) (ds : List Deed) : Option Bool → Prop
  | some b => ∃ ns f, g.metadata.ns = some ns ∧ Finds now g ns ds f ∧ f.success? = some b
  | none => ∀ ns f, g.metadata.ns = some ns → Finds now g ns ds f → f.success? = none

/-- There is at most one call in a pass. -/
lemma Called.unique {call' : Option Bool} (h : Called now g ds call) (h' : Called now g ds call') :
    call = call' := by
  have same : ∀ {b c : Bool}, Called now g ds (some b) → Called now g ds (some c) → b = c := by
    rintro b c ⟨ns, f, hns, finds, hf⟩ ⟨ns', f', hns', finds', hf'⟩
    obtain rfl := Option.some.inj (hns.symm.trans hns')
    obtain rfl := finds.unique finds'
    exact Option.some.inj (hf.symm.trans hf')
  have none_or : ∀ {b : Bool}, Called now g ds (some b) → ¬ Called now g ds none := by
    rintro b ⟨ns, f, hns, finds, hf⟩ nothing
    cases hf.symm.trans (nothing ns f hns finds)
  cases call with
  | none =>
    cases call' with
    | none => rfl
    | some c => exact absurd h (none_or h')
  | some b =>
    cases call' with
    | none => exact absurd h' (none_or h)
    | some c => rw [same h h']

/-- What deeds count about a call, and what becomes of the date of the last rotation.  A call that
goes well is counted unless the status is lost, one that fails in any case; and a rotation is
counted if one is due, while the date moves only if the status is not lost. -/
structure Counted (now : Timestamp) (g : Grant) (ds : List Deed) (call : Option Bool) : Prop where
  attempted : ∀ b, attempts b ds =
    if call = some b ∧ ¬ (call = some true ∧ lost ds = true) then 1 else 0
  rotated : rotations ds =
    if call = some true ∧ Rotation.isDue now g.statusOrEmpty = true then 1 else 0
  moved : Lifetime.rotated (storedAfter g.status ds) =
    if call = some true ∧ lost ds = false then some (Rotation.lastAt now g.statusOrEmpty)
    else Lifetime.rotated g.status

/-- Idle deeds before and after make no difference. -/
lemma Counted.amid {before after : List Deed} (h : Counted now g ds call)
    (idle : ∀ d ∈ before, d.Idle) (idle' : ∀ d ∈ after, d.Idle) :
    Counted now g (before ++ ds ++ after) call := by
  obtain ⟨none_tried, none_rotated, none_lost, same⟩ := counts_of_idle idle
  obtain ⟨none_tried', none_rotated', none_lost', same'⟩ := counts_of_idle idle'
  have lost_eq : lost (before ++ ds ++ after) = lost ds := by
    simp [lost_append, none_lost, none_lost']
  refine ⟨fun b => ?_, ?_, ?_⟩
  · rw [lost_eq, ← h.attempted b, attempts_append, attempts_append, none_tried, none_tried']
    omega
  · rw [← h.rotated, rotations_append, rotations_append, none_rotated, none_rotated']
    omega
  · rw [lost_eq, ← h.moved, storedAfter_append, storedAfter_append, same, same']

/-- Deeds that are all idle count nothing. -/
lemma Counted.of_idle (idle : ∀ d ∈ ds, d.Idle) : Counted now g ds none := by
  obtain ⟨none_tried, none_rotated, -, same⟩ := counts_of_idle idle
  exact ⟨fun b => by simp [none_tried], by simp [none_rotated], by simp [same]⟩

/-! ### Reports -/

/-- What is noticed of a report: what comes before, and what comes after unless the status is
lost. -/
lemma Report.filter {s : GrantStatus} {before news after : List Deed} {a : Action}
    {p : Deed → Bool} (h : Report g ns s before news after a ds r)
    (quiet : ∀ d, d ∈ before ∨ d ∈ news ∨ d ∈ after → d.Quiet)
    (unwritten : ∀ key t out, p (.request (.patchGrantStatus key t) out) = false)
    (unheard : ∀ d ∈ news, p d = false) :
    ds.filter p = before.filter p ++ if lost ds then [] else after.filter p := by
  have none_heard : news.filter p = [] := List.filter_eq_nil_iff.2 fun d hd => by simp [unheard d hd]
  obtain ⟨first, -⟩ := unwritten_of_quiet fun d hd => quiet d (.inl hd)
  obtain ⟨second, -⟩ := unwritten_of_quiet fun d hd => quiet d (.inr (.inl hd))
  obtain ⟨third, -⟩ := unwritten_of_quiet fun d hd => quiet d (.inr (.inr hd))
  cases h with
  | kept h => simp [lost_append, first, third]
  | unwritten h e => simp [lost_append, lost_cons, Deed.losesStatus, unwritten]
  | written h =>
    simp [lost_append, lost_cons, Deed.losesStatus, first, second, third, unwritten, none_heard]

lemma Report.countP {s : GrantStatus} {before news after : List Deed} {a : Action}
    {p : Deed → Bool} (h : Report g ns s before news after a ds r)
    (quiet : ∀ d, d ∈ before ∨ d ∈ news ∨ d ∈ after → d.Quiet)
    (unwritten : ∀ key t out, p (.request (.patchGrantStatus key t) out) = false)
    (unheard : ∀ d ∈ news, p d = false) :
    ds.countP p = before.countP p + if lost ds then 0 else after.countP p := by
  simp only [List.countP_eq_length_filter, h.filter quiet unwritten unheard, List.length_append]
  cases lost ds <;> rfl

/-- The date of the last rotation that a report leaves. -/
lemma Report.lastRotation {s : GrantStatus} {before news after : List Deed} {a : Action}
    (h : Report g ns s before news after a ds r)
    (quiet : ∀ d, d ∈ before ∨ d ∈ news ∨ d ∈ after → d.Quiet) :
    Lifetime.rotated (storedAfter g.status ds) =
      if lost ds then Lifetime.rotated g.status else s.lastRotation := by
  obtain ⟨first, first'⟩ := unwritten_of_quiet fun d hd => quiet d (.inl hd)
  obtain ⟨second, second'⟩ := unwritten_of_quiet fun d hd => quiet d (.inr (.inl hd))
  obtain ⟨third, third'⟩ := unwritten_of_quiet fun d hd => quiet d (.inr (.inr hd))
  cases h with
  | kept h =>
    -- the status that stays is as good, and so has the same date
    cases hs : g.status with
    | none => simp [hs] at h
    | some t =>
      have same : t.equivalent s = true := by simpa [hs] using h
      have dates := (GrantStatus.equivalent_iff.1 same).2.2.2.1
      simp [lost_append, first, third, storedAfter, first', third', Lifetime.rotated, dates]
  | unwritten h e =>
    simp [lost_append, lost_cons, Deed.losesStatus, storedAfter, first', Deed.stored?]
  | written h =>
    simp [lost_append, lost_cons, Deed.losesStatus, first, second, third, storedAfter, first',
      second', third', Deed.stored?, Lifetime.rotated]

/-! ### Findings -/

lemma rotated_statusOrEmpty (g : Grant) :
    g.statusOrEmpty.lastRotation = Lifetime.rotated g.status := by
  cases hs : g.status <;> simp [Grant.statusOrEmpty, Lifetime.rotated, hs]

lemma Rejected.counted {rej : Rejection} (h : Rejected now g ns rej ds r) :
    Counted now g ds none := by
  have date := h.lastRotation fun _ => quiet_rejection
  have kept : (g.rejectedStatus now rej).lastRotation = Lifetime.rotated g.status :=
    rotated_statusOrEmpty g
  refine ⟨fun b => ?_, ?_, by simp [date, kept]⟩
  · have counted := h.countP (p := Deed.countsAttempt b) (fun _ => quiet_rejection)
      (fun _ _ _ => rfl) (by simp [Deed.countsAttempt])
    simpa [attempts, Deed.countsAttempt] using counted
  · have counted := h.countP (p := Deed.rotates) (fun _ => quiet_rejection)
      (fun _ _ _ => rfl) (by simp [Deed.rotates])
    simpa [rotations, Deed.rotates] using counted

lemma Failed.counted {e : ProvisionFailure} (h : Failed now g ns e ds r) :
    Counted now g ds (some false) := by
  have date := h.lastRotation fun _ => quiet_failure
  have kept : (g.failedStatus now e.message).lastRotation = Lifetime.rotated g.status :=
    rotated_statusOrEmpty g
  refine ⟨fun b => ?_, ?_, by simp [date, kept]⟩
  · have counted := h.countP (p := Deed.countsAttempt b) (fun _ => quiet_failure)
      (fun _ _ _ => rfl) (by simp [Deed.countsAttempt])
    cases b <;> simpa [attempts, Deed.countsAttempt] using counted
  · have counted := h.countP (p := Deed.rotates) (fun _ => quiet_failure)
      (fun _ _ _ => rfl) (by simp [Deed.rotates])
    simpa [rotations, Deed.rotates] using counted

lemma Provisioned.counted {p : Provider} {result : ProvisionResult} {look : List Deed}
    (h : Provisioned now g ns p result look ds r) (reads : ∀ d ∈ look, d.Reads) :
    Counted now g ds (some true) := by
  have date := h.lastRotation fun _ => quiet_provisioned reads
  have heard : ∀ {count : Deed → Bool}, (∀ e, count (.publish e) = false) →
      ∀ d ∈ readyNews g result, count d = false := by
    intro count unheard d hd
    unfold readyNews at hd
    split at hd
    · rw [List.mem_singleton.1 hd, unheard]
    · simp at hd
  obtain ⟨none_tried, none_rotated, -, -⟩ := counts_of_idle fun d hd => (reads d hd).idle
  refine ⟨fun b => ?_, ?_, ?_⟩
  · have counted := h.countP (p := Deed.countsAttempt b) (fun _ => quiet_provisioned reads)
      (fun _ _ _ => rfl) (heard fun _ => rfl)
    have before : (rotationDeeds now g ns p).countP (Deed.countsAttempt b) = 0 := by
      unfold rotationDeeds
      split <;> simp [Deed.countsAttempt]
    have after : (readyDeeds now g ns p ++ look).countP (Deed.countsAttempt b) =
        if b then 1 else 0 := by
      rw [List.countP_append, show look.countP (Deed.countsAttempt b) = 0 from none_tried b]
      unfold readyDeeds
      cases (rotationOf now g p).next <;> cases b <;> simp [Deed.countsAttempt]
    rw [attempts, counted, before, after]
    cases b <;> cases lost ds <;> simp
  · have counted := h.countP (p := Deed.rotates) (fun _ => quiet_provisioned reads)
      (fun _ _ _ => rfl) (heard fun _ => rfl)
    have before : (rotationDeeds now g ns p).countP Deed.rotates =
        if (rotationOf now g p).due then 1 else 0 := by
      unfold rotationDeeds
      split <;> simp [Deed.rotates]
    have after : (readyDeeds now g ns p ++ look).countP Deed.rotates = 0 := by
      rw [List.countP_append, show look.countP Deed.rotates = 0 from none_rotated]
      unfold readyDeeds
      cases (rotationOf now g p).next <;> simp [Deed.rotates]
    rw [rotations, counted, before, after]
    simp [rotationOf, Rotation.plan]
    rfl
  · rw [date, Grant.lastRotation_provisionedStatus]
    cases lost ds <;> simp [rotationOf, Rotation.plan]

lemma Tells.counted (h : Tells now g ns f ds r) : Counted now g ds f.success? := by
  cases f with
  | rejected rej => exact Rejected.counted h
  | failed e => exact Failed.counted h
  | provisioned p result =>
    obtain ⟨look, reads, report⟩ := h
    exact Provisioned.counted report reads

/-! ### Passes -/

/-- Where a strategy was called upon, the labels of the namespace were read. -/
lemma Finds.labels (h : Finds now g ns ds f) (called : f.success? ≠ none) :
    ∃ labels, .request (.getNamespaceLabels ns) (.ok labels) ∈ ds := by
  cases h with
  | missing rest => exact absurd rfl called
  | refused gate rest => exact absurd rfl called
  | attempted gate attempt rest => exact ⟨_, List.mem_cons_of_mem _ (List.mem_cons_self ..)⟩

lemma called_none (h : ∀ ns labels, .request (.getNamespaceLabels ns) (.ok labels) ∉ ds) :
    Called now g ds none := by
  intro ns f _ finds
  by_contra called
  obtain ⟨labels, read⟩ := finds.labels called
  exact h ns labels read

lemma called_of_finds (hns : g.metadata.ns = some ns) (finds : Finds now g ns ds f) :
    Called now g ds f.success? := by
  cases hf : f.success? with
  | some b => exact ⟨ns, f, hns, finds, hf⟩
  | none =>
    intro ns' f' hns' finds'
    obtain rfl := Option.some.inj (hns.symm.trans hns')
    rw [← finds.unique finds', hf]

/-- A release counts nothing and looks at no labels. -/
lemma Releasing.idle (h : Releasing g ns ds r) :
    (∀ d ∈ ds, d.Idle) ∧ ∀ ns' labels, .request (.getNamespaceLabels ns') (.ok labels) ∉ ds := by
  cases h with
  | providerUnread | unserved => simp [Deed.Idle]
  | @unremoved _ s => cases s <;> simp [Strategy.removal, Deed.Idle]
  | @removed _ s => cases s <;> simp [Strategy.removal, Deed.Idle]

/-- A pass over a grant that is not to be served counts nothing and looks at no labels. -/
lemma Course.idle (h : Course now g ds r)
    (other : ¬ (g.metadata.ns.isSome ∧ g.isDeleting = false ∧ hasFinalizer g = true)) :
    (∀ d ∈ ds, d.Idle) ∧ ∀ ns labels, .request (.getNamespaceLabels ns) (.ok labels) ∉ ds := by
  cases h with
  | homeless | released => simp
  | claiming => simp [Deed.Idle]
  | releasing hns hd hf rest => exact rest.idle
  | serving hns hd hf rest => exact absurd ⟨by simp [hns], hd, hf⟩ other

lemma idle_endDeeds : ∀ d ∈ Pass.endDeeds .grants r, d.Idle := by
  cases r <;> simp [Pass.endDeeds, Deed.Idle]

/-- A pass calls upon a strategy at most once, and counts this call as `Counted` says. -/
lemma counted_of_runs (h : (reconcileGrant now g).run.Runs ds r) :
    ∃ call, Called now g ds call ∧ Counted now g ds call := by
  by_cases served : g.metadata.ns.isSome ∧ g.isDeleting = false ∧ hasFinalizer g = true
  · obtain ⟨home, kept, claimed⟩ := served
    obtain ⟨ns, hns⟩ := Option.isSome_iff_exists.1 home
    obtain ⟨es, runs, rfl⟩ := Pass.runs_measured.1 h
    simp only [body, hns, kept, claimed, Bool.false_eq_true, if_false, if_true] at runs
    rcases serve_tells hns runs with
      ⟨-, reads, nothing⟩ | ⟨f, lead, told, rfl, finds, -, mild, tells⟩
    · refine ⟨none, fun ns' f hns' finds => ?_, .of_idle fun d hd => ?_⟩
      · obtain rfl := Option.some.inj (hns.symm.trans hns')
        exact absurd finds (nothing f _)
      · rcases List.mem_append.1 hd with hd | hd
        · exact (reads d hd).idle
        · exact idle_endDeeds d hd
    · refine ⟨f.success?, ?_, tells.counted.amid
        (fun d hd => (mild d hd).elim Deed.Reads.idle Deed.idle_of_applies) idle_endDeeds⟩
      exact called_of_finds hns (finds.append _)
  · obtain ⟨es, course, rfl⟩ := course_of_runs h
    obtain ⟨idle, unlabelled⟩ := course.idle served
    refine ⟨none, called_none fun ns labels read => ?_, .of_idle fun d hd => ?_⟩
    · rcases List.mem_append.1 read with read | read
      · exact unlabelled ns labels read
      · cases r <;> simp [Pass.endDeeds] at read
    · rcases List.mem_append.1 hd with hd | hd
      · exact idle d hd
      · exact idle_endDeeds d hd

/-- Where the status would have to be written after the artifact was made, this may fail, and then
nothing of the pass is left but the artifact. -/
lemma exists_unwritten {p : Provider} {result : ProvisionResult} (hns : g.metadata.ns = some ns)
    (kept : g.isDeleting = false) (claimed : hasFinalizer g = true)
    (finds : Finds now g ns ds (.provisioned p result)) (allowed : o.Allows now ds o')
    (changed : g.status.any (·.equivalent
      (g.provisionedStatus now (rotationOf now g p) result)) = false) (e : ApiFailure) :
    ∃ ds' o'', (reconcileGrant now g).run.Runs ds' (.error (.ofApi e)) ∧ o.Allows now ds' o'' ∧
      Called now g ds' (some true) ∧ lost ds' = true ∧
      o''.grants[g.key]? = o.grants[g.key]? := by
  rcases finds.read allowed with ⟨-, other⟩ | ⟨_, _, -, -, other⟩ |
      ⟨p', s, es, rest, outcome, o₁, found, gate, attempt, tried, outcome_eq, -⟩
  · cases other
  · cases other
  cases outcome with
  | error f => cases outcome_eq
  | ok result' =>
    cases outcome_eq
    let failing : List Deed := [.request (.patchGrantStatus ⟨ns, g.name⟩
      (g.provisionedStatus now (rotationOf now g p) result)) (.error e)]
    have unwritten : (tell now g ns p s result).run.Runs failing (.error (.ofApi e)) :=
      runs_updateStatus_bind.2 (.inr ⟨changed, .inl ⟨e, rfl, rfl⟩⟩)
    have told : (onProvisioned now g ns p s result).run.Runs
        (rotationDeeds now g ns p ++ failing) (.error (.ofApi e)) := by
      rw [onProvisioned_eq, rotationDeeds]
      split
      · exact Pass.runs_note_bind.2 ⟨_, rfl, unwritten⟩
      · exact unwritten
    have served : (serve now g ns).run.Runs
        (.request (.getProvider g.spec.provider) (.ok (some p)) ::
          .request (.getNamespaceLabels ns) (.ok o.namespaces[ns]?) ::
          (es ++ (rotationDeeds now g ns p ++ failing))) (.error (.ofApi e)) := by
      refine Pass.runs_send_bind.2 (.inr ⟨some p, _, rfl, ?_⟩)
      refine Pass.runs_send_bind.2 (.inr ⟨o.namespaces[ns]?, _, rfl, ?_⟩)
      simp only [gate]
      exact runs_lift_bind.2 ⟨es, .ok result, _, attempt, told, rfl⟩
    have found' := (Finds.attempted gate attempt (rotationDeeds now g ns p ++ failing)).append
    refine ⟨_, o₁, Pass.runs_measured.2 ⟨_, by simpa [body, hns, kept, claimed] using served, rfl⟩,
      ?_, called_of_finds hns (found' _), ?_, ?_⟩
    · refine Objects.allows_append.2 ⟨o₁, ⟨found, rfl, ?_⟩, rfl⟩
      refine Objects.allows_append.2 ⟨o₁, tried, ?_⟩
      unfold rotationDeeds
      split <;> rfl
    · simp [lost_append, lost_cons, Deed.losesStatus, failing]
    · refine Objects.content_kept (x := .grant g.key) (fun d hd => ?_) tried
      rcases (Strategy.attempt_of_runs hns attempt).mem hd with reads | applies
      · exact reads.quiet.spares
      · exact Deed.spares_of_applies applies

end GrantPass

/-! ## Dates in the cluster -/

/-- A next rotation comes after a last one. -/
def GrantStatus.Planned (s : GrantStatus) : Prop :=
  ∀ next, s.nextRotation = some next → ∃ last, s.lastRotation = some last ∧ last < next

lemma GrantPass.Computes.planned {now : Timestamp} {g : Grant} {ds : List Deed} {s : GrantStatus}
    (h : Computes now g ds s) (before : g.statusOrEmpty.Planned) : s.Planned := by
  cases h with
  | rejected rej => exact before
  | failed message => exact before
  | provisioned result _ =>
    intro next hnext
    obtain ⟨i, hi, added⟩ := Option.bind_eq_some_iff.1 hnext
    exact ⟨_, rfl, Timestamp.lt_of_addSeconds? (rotationInterval?_pos hi) added⟩

/-- Whether a date was there and has become a later one. -/
def movesOn : Option Timestamp → Option Timestamp → Bool
  | some a, some b => a < b
  | _, _ => false

@[simp] lemma movesOn_self (a : Option Timestamp) : movesOn a a = false := by
  cases a with
  | none => rfl
  | some t => simp [movesOn, Timestamp.lt_iff_not_le, Timestamp.le_refl]

@[simp] lemma movesOn_none (a : Option Timestamp) : movesOn a none = false := by
  cases a <;> rfl

/-- The date of the last rotation that a pass computes is a later one exactly if a rotation is
due. -/
lemma Rotation.movesOn_lastAt (now : Timestamp) {s : GrantStatus} (planned : s.Planned) :
    movesOn s.lastRotation (some (lastAt now s)) = isDue now s := by
  cases due : isDue now s with
  | false =>
    cases hl : s.lastRotation with
    | none => rfl
    | some last => simp [lastAt, hl, due]
  | true =>
    cases hn : s.nextRotation with
    | none => simp [isDue, hn] at due
    | some next =>
      obtain ⟨last, hl, lt⟩ := planned next hn
      have passed : next ≤ now := by simpa [isDue, hn] using due
      have later : last < now := fun le => lt (Timestamp.le_trans passed le)
      simpa [lastAt, hl, due, movesOn] using later

namespace Objects

/-- The date of the last rotation that a grant in the cluster shows. -/
def rotated (o : Objects) (key : ObjectKey) : Option Timestamp :=
  o.grants[key]?.bind fun g => Lifetime.rotated g.status

/-- Whatever status a grant has, its next rotation comes after its last one. -/
def Planned (o : Objects) : Prop :=
  ∀ (key : ObjectKey) (g : Grant) (s : GrantStatus), o.grants[key]? = some g →
    g.status = some s → s.Planned

/-- Others than the operator change the cluster as they like, but give no grant a status that it did
not have before. -/
def Edited (o o' : Objects) : Prop :=
  ∀ (key : ObjectKey) (g' : Grant), o'.grants[key]? = some g' →
    g'.status = none ∨ ∃ g : Grant, o.grants[key]? = some g ∧ g'.status = g.status

variable {now : Timestamp} {o o' : Objects} {g g₀ : Grant} {ns : String} {found : Option Provider}
  {ds : List Deed} {r : Except ReconcileFailure Action} {key : ObjectKey}

/-- A request of a grant stores a status for this grant or none. -/
lemma status_answer (now : Timestamp) {q : Request} (own : q.Own g g.key.ns found)
    (stored : o.grants[g.key]? = some g₀) :
    ∃ g₁, (o.answer now q).2.grants[g.key]? = some g₁ ∧
      g₁.status = storedAfter g₀.status [.request q (.ok (o.answer now q).1)] := by
  rcases own with rfl | own
  · exact ⟨g₀, stored, rfl⟩
  cases q with
  | patchGrantStatus key s =>
    obtain rfl : key = g.key := own
    exact ⟨{ g₀ with status := some s }, by simp [answer, modifyGrant, stored], rfl⟩
  | addFinalizer key finalizer =>
    obtain rfl : key = g.key := own.1
    refine ⟨withFinalizer finalizer g₀, by simp [answer, modifyGrant, stored], ?_⟩
    unfold withFinalizer
    split <;> rfl
  | removeFinalizer key finalizer =>
    obtain rfl : key = g.key := own.1
    exact ⟨withoutFinalizer finalizer g₀, by simp [answer, modifyGrant, stored], rfl⟩
  | _ => exact ⟨g₀, stored, rfl⟩

/-- What deeds of a grant store for it is its status afterwards. -/
lemma status_of_allows (own : ∀ d ∈ ds, d.Own g g.key.ns found)
    (stored : o.grants[g.key]? = some g₀) (ha : o.Allows now ds o') :
    ∃ g', o'.grants[g.key]? = some g' ∧ g'.status = storedAfter g₀.status ds := by
  induction ds generalizing o g₀ with
  | nil => exact ⟨g₀, by rw [allows_nil.1 ha, stored], rfl⟩
  | cons d ds ih =>
    have later : ∀ e ∈ ds, e.Own g g.key.ns found := fun e he => own e (List.mem_cons_of_mem _ he)
    rw [← List.singleton_append, storedAfter_append]
    match d, own d (List.mem_cons_self ..), ha with
    | .request q (.ok a), mine, ha =>
      obtain ⟨rfl, rest⟩ := ha
      obtain ⟨g₁, stored₁, status⟩ := status_answer now mine stored
      rw [← status]
      exact ih later stored₁ rest
    | .request q (.error e), _, ha =>
      have nothing : (Deed.request q (.error e)).stored? = none := by cases q <;> rfl
      simpa [storedAfter, nothing] using ih later stored (allows_error.1 ha)
    | .publish e, _, ha => exact ih later stored (allows_publish.1 ha)
    | .measure m, _, ha => exact ih later stored (allows_measure.1 ha)

/-- Whoever edits the cluster moves no date on. -/
lemma Edited.movesOn (h : o.Edited o') : movesOn (o.rotated key) (o'.rotated key) = false := by
  cases stands : o'.grants[key]? with
  | none => simp [rotated, stands]
  | some g' =>
    rcases h key g' stands with none_now | ⟨g, stood, same⟩
    · simp [rotated, stands, none_now, Lifetime.rotated]
    · simp [rotated, stands, stood, same]

lemma Planned.statusOrEmpty (h : o.Planned) (stored : o.grants[key]? = some g) :
    g.statusOrEmpty.Planned := by
  cases hs : g.status with
  | none => simp [Grant.statusOrEmpty, hs, GrantStatus.Planned]
  | some s => simpa [Grant.statusOrEmpty, hs] using h key g s stored hs

lemma Planned.edited (h : o.Planned) (edited : o.Edited o') : o'.Planned := by
  intro key g' s stands hs
  rcases edited key g' stands with none_now | ⟨g, stood, same⟩
  · cases none_now.symm.trans hs
  · exact h key g s stood (same ▸ hs)

end Objects

namespace PassIn

variable {now : Timestamp} {o o' : Objects} {g : Grant} {ds : List Deed}
  {r : Except ReconcileFailure Action} {key : ObjectKey}

/-- Where a pass stored a status, there its grant has it. -/
lemma status (pass : PassIn now o g ds r o') (stored : o.grants[g.key]? = some g) :
    ∃ g', o'.grants[g.key]? = some g' ∧ g'.status = storedAfter g.status ds :=
  Objects.status_of_allows pass.own stored pass.allowed

lemma rotated (pass : PassIn now o g ds r o') (stored : o.grants[g.key]? = some g) :
    o.rotated g.key = Lifetime.rotated g.status ∧
      o'.rotated g.key = Lifetime.rotated (storedAfter g.status ds) := by
  obtain ⟨g', stands, status⟩ := pass.status stored
  exact ⟨by simp [Objects.rotated, stored], by simp [Objects.rotated, stands, status]⟩

/-- A pass over one grant leaves the others as they are. -/
lemma others (pass : PassIn now o g ds r o') (other : key ≠ g.key) :
    o'.grants[key]? = o.grants[key]? :=
  pass.content_outside (x := .grant key) (by simp [Grant.domain, other])

/-- A pass over any grant leaves what decides whether a grant is served. -/
lemma cleared {h : Grant} {ns : String} {p : Provider} (pass : PassIn now o g ds r o')
    (before : o.Cleared h ns p) : o'.Cleared h ns p := by
  have labels : o'.namespaces[ns]? = o.namespaces[ns]? :=
    pass.content_outside (x := .labels ns) (by simp [Grant.domain])
  exact ⟨before.kept, before.claimed, (pass.providers_eq _).trans before.found,
    labels ▸ before.served, before.permitted, before.declared⟩

/-- A pass leaves the master key unless its artifact stands there. -/
lemma holdsKey {p : Provider} (pass : PassIn now o g ds r o') (before : o.HoldsKey p)
    (apart : ∀ k, p.spec.auth.apiKey = some k → .secret k.secretRef.secretKey ∉ g.domain) :
    o'.HoldsKey p := by
  intro k type block
  obtain ⟨master, held, has⟩ := before k type block
  exact ⟨master, (pass.content_outside (apart k block)).trans held, has⟩

lemma planned (pass : PassIn now o g ds r o') (stored : o.grants[g.key]? = some g)
    (before : o.Planned) : o'.Planned := by
  intro key g' s stands hs
  by_cases mine : key = g.key
  · subst mine
    obtain ⟨g₁, stands₁, status⟩ := pass.status stored
    obtain rfl := Option.some.inj (stands₁.symm.trans stands)
    rcases GrantPass.stored_of_runs pass.runs with kept | ⟨t, stored', computed⟩
    · exact before _ g s stored (by rw [← kept, ← status, hs])
    · obtain rfl : t = s := Option.some.inj (by rw [← stored', ← status, hs])
      exact computed.planned (before.statusOrEmpty stored)
  · exact before key g' s (by rw [← pass.others mine, stands]) hs

end PassIn

/-! ## Histories -/

/-- A pass over a grant: when it took place, what it did, and how the call upon a strategy went, if
there was one. -/
structure Visit where
  now : Timestamp
  grant : Grant
  deeds : List Deed
  call : Option Bool

namespace Visit

/-- The artifact was made, but the status could not be written. -/
def loses (v : Visit) : Bool := v.call = some true && lost v.deeds

/-- The rotation was due that the next pass makes once more. -/
def repeats (v : Visit) : Bool := v.loses && Rotation.isDue v.now v.grant.statusOrEmpty

end Visit

/-- A rotation that a pass counts moves the date on, or is left to be made once more. -/
lemma GrantPass.Counted.balance {now : Timestamp} {g : Grant} {ds : List Deed} {call : Option Bool}
    (h : Counted now g ds call) (planned : g.statusOrEmpty.Planned) :
    rotations ds =
      (movesOn (Lifetime.rotated g.status) (Lifetime.rotated (storedAfter g.status ds))).toNat +
        (Visit.repeats ⟨now, g, ds, call⟩).toNat := by
  have moved := Rotation.movesOn_lastAt now planned
  rw [rotated_statusOrEmpty] at moved
  rw [h.rotated, h.moved, Visit.repeats, Visit.loses]
  by_cases called : call = some true
  · cases lost ds <;> cases hd : Rotation.isDue now g.statusOrEmpty <;> simp [called, moved, hd]
  · simp [called]

/-- The passes that there have been since a cluster was as it was at the start, and the clusters
that there have been, both with the latest first.  Each pass finds its grant as it is stored; which
requests fail is open. -/
inductive Chronicle (start : Objects) : List Visit → List Objects → Prop where
  | start : Chronicle start [] [start]
  /-- Others change the cluster. -/
  | edit {past : List Visit} {o o' : Objects} {trail : List Objects}
      (before : Chronicle start past (o :: trail)) (edited : o.Edited o') :
      Chronicle start past (o' :: o :: trail)
  /-- A pass takes place. -/
  | pass {past : List Visit} {o o' : Objects} {trail : List Objects} {now : Timestamp} {g : Grant}
      {ds : List Deed} {r : Except ReconcileFailure Action} {call : Option Bool}
      (before : Chronicle start past (o :: trail)) (found : o.grants[g.key]? = some g)
      (pass : PassIn now o g ds r o') (called : GrantPass.Called now g ds call) :
      Chronicle start (⟨now, g, ds, call⟩ :: past) (o' :: o :: trail)

/-- How often the date of the last rotation moved on that is stored for a grant. -/
def moves (key : ObjectKey) : List Objects → Nat
  | o' :: o :: rest => (movesOn (o.rotated key) (o'.rotated key)).toNat + moves key (o :: rest)
  | _ => 0

/-- The number of rotations that the passes over a grant have counted. -/
def countedRotations (key : ObjectKey) (past : List Visit) : Nat :=
  ((past.filter (·.grant.key = key)).map (rotations ·.deeds)).sum

/-- The number of rotations that the passes over a grant have left to be made once more. -/
def repeatedRotations (key : ObjectKey) (past : List Visit) : Nat :=
  (past.filter (·.grant.key = key)).countP Visit.repeats

namespace Chronicle

variable {start : Objects} {past : List Visit} {trail : List Objects}

lemma planned (h : Chronicle start past trail) (before : start.Planned) :
    ∀ o ∈ trail.head?, o.Planned := by
  induction h with
  | start => simpa using before
  | edit _ edited ih => simpa using (ih _ rfl).edited edited
  | pass _ found pass _ ih => simpa using pass.planned found (ih _ rfl)

lemma counted (h : Chronicle start past trail) : ∀ v ∈ past,
    GrantPass.Called v.now v.grant v.deeds v.call ∧
      GrantPass.Counted v.now v.grant v.deeds v.call := by
  induction h with
  | start => simp
  | edit _ _ ih => exact ih
  | pass _ _ pass called ih =>
    obtain ⟨call, called', counted⟩ := GrantPass.counted_of_runs pass.runs
    obtain rfl := called.unique called'
    exact List.forall_mem_cons.2 ⟨⟨called, counted⟩, ih⟩

/-- Rotations are counted as often as dates move on, and once for each pass that leaves one to be
made once more. -/
lemma counts_rotations (h : Chronicle start past trail) (planned : start.Planned)
    (key : ObjectKey) : countedRotations key past = moves key trail + repeatedRotations key past := by
  induction h with
  | start => rfl
  | edit _ edited ih => simp [moves, edited.movesOn, ih]
  | @pass past o o' trail now g ds r call before found pass called ih =>
    have whole : Chronicle start (⟨now, g, ds, call⟩ :: past) (o' :: o :: trail) :=
      before.pass found pass called
    have step : countedRotations key (⟨now, g, ds, call⟩ :: past) =
        (if g.key = key then rotations ds else 0) + countedRotations key past := by
      by_cases mine : g.key = key <;> simp [countedRotations, mine]
    have step' : repeatedRotations key (⟨now, g, ds, call⟩ :: past) =
        (if g.key = key then (Visit.repeats ⟨now, g, ds, call⟩).toNat else 0) +
          repeatedRotations key past := by
      by_cases mine : g.key = key
      · cases hr : Visit.repeats ⟨now, g, ds, call⟩ <;>
          simp [repeatedRotations, mine, hr, Nat.add_comm]
      · simp [repeatedRotations, mine]
    have dates := before.planned planned o rfl
    rw [step, step', ih, moves]
    split
    next mine =>
      subst mine
      have counted : GrantPass.Counted now g ds call :=
        (whole.counted _ (List.mem_cons_self ..)).2
      obtain ⟨dated, dated'⟩ := pass.rotated found
      rw [counted.balance (dates.statusOrEmpty found), dated, dated']
      omega
    next other =>
      have same : o'.rotated key = o.rotated key := by
        simp [Objects.rotated, pass.others (Ne.symm other)]
      simp [same]

end Chronicle

/-- The balance of the counters after any passes, among which others edit the cluster, and of whose
requests any may fail.  Each call upon a strategy is counted once, as a success or a failure, unless
the artifact was made and the status could not be written then.  If the dates of the cluster at the
start are in order, the rotations that are counted for a grant are those that moved its date on, and
for each pass whose status could not be written while a rotation was due one more. -/
theorem counters_balance {start : Objects} {past : List Visit} {trail : List Objects}
    (h : Chronicle start past trail) :
    (∀ v ∈ past, GrantPass.Called v.now v.grant v.deeds v.call ∧
      ∀ b, attempts b v.deeds = if v.call = some b ∧ ¬ v.loses then 1 else 0) ∧
    (start.Planned → ∀ key,
      countedRotations key past = moves key trail + repeatedRotations key past) :=
  ⟨fun v hv => ⟨(h.counted v hv).1, fun b => by simp [(h.counted v hv).2.attempted b, Visit.loses]⟩,
    h.counts_rotations⟩

namespace Sample

/-- The grant with hourly rotations, for which one is due. -/
def overdue : Grant :=
  { rotating with status := some { lastRotation := some .epoch, nextRotation := some hour } }

/-- The small cluster with this grant. -/
def overdueObjects : Objects :=
  { objects with grants := objects.grants.insert overdue.key overdue }

lemma overdue_stored : overdueObjects.grants[overdue.key]? = some overdue := by
  simp [overdueObjects]

lemma overdue_planned : overdueObjects.Planned := by
  intro key g s stored hs next hn
  by_cases mine : overdue.key = key
  · obtain rfl : overdue = g := by simpa [overdueObjects, mine] using stored
    obtain rfl := Option.some.inj hs
    obtain rfl := Option.some.inj hn
    exact ⟨.epoch, rfl, by decide⟩
  · have other : grant.key ≠ key := mine
    simp [overdueObjects, objects, mine, other] at stored

lemma overdue_cleared : overdueObjects.Cleared overdue "team" provider :=
  ⟨cleared.kept, cleared.claimed, cleared.found, cleared.served, cleared.permitted,
    cleared.declared⟩

variable {o : Objects}

/-- If nothing fails, a pass over the grant makes the artifact and writes the status. -/
lemma pass_overdue (cleared : o.Cleared overdue "team" provider) (key : o.HoldsKey provider) :
    ∃ ds r o', PassIn hour o overdue ds r o' ∧ GrantPass.Called hour overdue ds (some true) ∧
      lost ds = false := by
  obtain ⟨ds, a, o', result, runs, allowed, undisturbed, made⟩ :=
    GrantPass.made_of_cleared rfl cleared key hour
  exact ⟨ds, _, o', ⟨runs, allowed⟩, GrantPass.called_of_finds rfl made,
    lost_eq_false_of_undisturbed undisturbed⟩

/-- A pass over the grant can make the artifact without its status being written. -/
lemma pass_overdue_unwritten (cleared : o.Cleared overdue "team" provider)
    (key : o.HoldsKey provider) :
    ∃ ds r o', PassIn hour o overdue ds r o' ∧ GrantPass.Called hour overdue ds (some true) ∧
      lost ds = true ∧ o'.grants[overdue.key]? = o.grants[overdue.key]? := by
  obtain ⟨ds, a, o', result, -, allowed, -, made⟩ :=
    GrantPass.made_of_cleared rfl cleared key hour
  have changed : overdue.status.any (·.equivalent (overdue.provisionedStatus hour
      (GrantPass.rotationOf hour overdue provider) result)) = false := by
    refine Bool.eq_false_iff.2 fun same => ?_
    have dates := (GrantStatus.equivalent_iff.1 same).2.2.2.1
    rw [Grant.lastRotation_provisionedStatus] at dates
    exact absurd dates (by decide)
  obtain ⟨ds', o'', runs, allowed', called, some_lost, kept⟩ :=
    GrantPass.exists_unwritten rfl rfl (by decide) made allowed changed .unreadable
  exact ⟨ds', _, o'', ⟨runs, allowed'⟩, called, some_lost, kept⟩

/-- The master key is not at any other place. -/
lemma master_apart {g : Grant} (apart : .secret ⟨"platform", "master"⟩ ∉ g.domain) :
    ∀ k, provider.spec.auth.apiKey = some k → .secret k.secretRef.secretKey ∉ g.domain := by
  intro k block
  obtain rfl : k = { secretRef := ⟨"master", "platform", "key"⟩ } := by
    simpa [provider, eq_comm] using block
  exact apart

/-- The status of the grant cannot be written after the artifact was made, and a second pass does
all of it again. -/
lemma interrupted : ∃ ds₁ ds₂ o₁ o₂,
    Chronicle overdueObjects
      [⟨hour, overdue, ds₂, some true⟩, ⟨hour, overdue, ds₁, some true⟩]
      [o₂, o₁, overdueObjects] ∧
    lost ds₁ = true ∧ lost ds₂ = false := by
  obtain ⟨ds₁, r₁, o₁, first, called₁, lost₁, kept⟩ :=
    pass_overdue_unwritten overdue_cleared holdsKey
  -- what the pass needs is there as before
  have cleared₁ : o₁.Cleared overdue "team" provider := first.cleared overdue_cleared
  have key₁ : o₁.HoldsKey provider := first.holdsKey holdsKey (master_apart (by decide))
  obtain ⟨ds₂, r₂, o₂, second, called₂, lost₂⟩ := pass_overdue cleared₁ key₁
  exact ⟨ds₁, ds₂, o₁, o₂,
    (Chronicle.start.pass overdue_stored first called₁).pass (kept.trans overdue_stored) second
      called₂, lost₁, lost₂⟩

end Sample

/-- In the small cluster a single pass that makes the artifact counts an attempt and a rotation, and
moves the date on. -/
theorem sample_counters_balance :
    ∃ ds o', Chronicle Sample.overdueObjects [⟨Sample.hour, Sample.overdue, ds, some true⟩]
        [o', Sample.overdueObjects] ∧
      Sample.overdueObjects.Planned ∧ attempts true ds = 1 ∧
      countedRotations Sample.overdue.key [⟨Sample.hour, Sample.overdue, ds, some true⟩] =
        moves Sample.overdue.key [o', Sample.overdueObjects] := by
  obtain ⟨ds, r, o', pass, called, written⟩ :=
    Sample.pass_overdue Sample.overdue_cleared Sample.holdsKey
  have chronicle := Chronicle.start.pass Sample.overdue_stored pass called
  obtain ⟨counted, balance⟩ := counters_balance chronicle
  refine ⟨ds, o', chronicle, Sample.overdue_planned, ?_, ?_⟩
  · simpa [Visit.loses, written] using (counted _ (List.mem_cons_self ..)).2 true
  · simpa [repeatedRotations, Visit.repeats, Visit.loses, written] using
      balance Sample.overdue_planned Sample.overdue.key

/-- If the status cannot be written while a rotation is due, two calls upon the strategy are counted
as one attempt and two rotations, while the date moves on once. -/
theorem rotation_counted_twice :
    ∃ ds₁ ds₂ o₁ o₂,
      Chronicle Sample.overdueObjects
        [⟨Sample.hour, Sample.overdue, ds₂, some true⟩,
          ⟨Sample.hour, Sample.overdue, ds₁, some true⟩]
        [o₂, o₁, Sample.overdueObjects] ∧
      attempts true ds₁ = 0 ∧ attempts true ds₂ = 1 ∧
      rotations ds₁ = 1 ∧ rotations ds₂ = 1 ∧
      moves Sample.overdue.key [o₂, o₁, Sample.overdueObjects] = 1 := by
  obtain ⟨ds₁, ds₂, o₁, o₂, chronicle, lost₁, lost₂⟩ := Sample.interrupted
  have due : Rotation.isDue Sample.hour Sample.overdue.statusOrEmpty = true := by decide
  have counted₂ := (chronicle.counted _ (List.mem_cons_self ..)).2
  have counted₁ := (chronicle.counted _ (List.mem_cons_of_mem _ (List.mem_cons_self ..))).2
  have twice₁ : rotations ds₁ = 1 := by simpa [due] using counted₁.rotated
  have twice₂ : rotations ds₂ = 1 := by simpa [due] using counted₂.rotated
  have balance := chronicle.counts_rotations Sample.overdue_planned Sample.overdue.key
  refine ⟨ds₁, ds₂, o₁, o₂, chronicle, ?_, ?_, twice₁, twice₂, ?_⟩
  · simpa [lost₁] using counted₁.attempted true
  · simpa [lost₂] using counted₂.attempted true
  · have sum : 2 = moves Sample.overdue.key [o₂, o₁, Sample.overdueObjects] + 1 := by
      simpa [countedRotations, repeatedRotations, Visit.repeats, Visit.loses, twice₁, twice₂, lost₁,
        lost₂, due] using balance
    omega

end CredentialOperator
