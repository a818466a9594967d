import CredentialOperator.Proofs.Provision.Attempt
import CredentialOperator.Reconcile.Grant

/-!
# The courses of a pass over a grant

What a pass over a grant can do, said once: `GrantPass.Course` lists the ways in which it can
go, with all deeds in order and the conditions under which each way is taken.  The parts of a
pass have relations of their own.  `Report` is what rejections, failures and successes have in
common: a status is entered unless the grant has one that is as good, and only then news of it
is given.  `Serving` tells how a grant is served that is not being deleted, `Releasing` how one
is released that is.

`GrantPass.course_of_runs` shows that a pass has no other runs.
-/

namespace CredentialOperator

/-- The ways in which making the artifact of a grant can go. -/
def Strategy.Attempt (s : Strategy) (now : Timestamp) (p : Provider) (g : Grant) (ns : String)
    (ds : List Deed) (r : Except ProvisionFailure ProvisionResult) : Prop :=
  match s with
  | .directCopy => DirectCopy.Attempt now p g ns ds r
  | .delegatedSync => DelegatedSync.Attempt now p g ns ds r

lemma Strategy.attempt_of_runs {s : Strategy} {now : Timestamp} {p : Provider} {g : Grant}
    {ns : String} {ds : List Deed} {r : Except ProvisionFailure ProvisionResult}
    (hns : g.metadata.ns = some ns) (h : (s.provision now p g).run.Runs ds r) :
    s.Attempt now p g ns ds r := by
  cases s with
  | directCopy => exact DirectCopy.attempt_of_runs hns h
  | delegatedSync => exact DelegatedSync.attempt_of_runs hns h

namespace GrantPass

variable {now : Timestamp} {g : Grant} {ns : String} {ds : List Deed}
  {r : Except ReconcileFailure Action}

/-! ## Reports -/

/-- The ways in which a status can be reported: some deeds come before, the news only if the
status was written, and some deeds after, unless it could not be written. -/
inductive Report (g : Grant) (ns : String) (s : GrantStatus) (before news after : List Deed)
    (a : Action) : List Deed → Except ReconcileFailure Action → Prop where
  /-- The status that the grant has is as good. -/
  | kept (h : g.status.any (·.equivalent s) = true) :
      Report g ns s before news after a (before ++ after) (.ok a)
  /-- The status cannot be written. -/
  | unwritten (h : g.status.any (·.equivalent s) = false) (e : ApiFailure) :
      Report g ns s before news after a
        (before ++ [.request (.patchGrantStatus ⟨ns, g.name⟩ s) (.error e)]) (.error (.ofApi e))
  /-- The status is written. -/
  | written (h : g.status.any (·.equivalent s) = false) :
      Report g ns s before news after a
        (before ++ .request (.patchGrantStatus ⟨ns, g.name⟩ s) (.ok ()) :: (news ++ after)) (.ok a)

/-- Deeds may be done before a report. -/
lemma Report.after {s : GrantStatus} {news after : List Deed} {a : Action} (before : List Deed)
    (h : Report g ns s [] news after a ds r) :
    Report g ns s before news after a (before ++ ds) r := by
  cases h with
  | kept h => exact .kept h
  | unwritten h e => exact .unwritten h e
  | written h => exact .written h

/-- A report is made of what comes before and after, the news, and one request. -/
lemma Report.mem {s : GrantStatus} {before news after : List Deed} {a : Action} {d : Deed}
    (h : Report g ns s before news after a ds r) (hd : d ∈ ds) :
    (d ∈ before ∨ d ∈ news ∨ d ∈ after) ∨
      ∃ o, d = .request (.patchGrantStatus ⟨ns, g.name⟩ s) o := by
  cases h with
  | kept h =>
    rcases List.mem_append.1 hd with hd | hd
    · exact .inl (.inl hd)
    · exact .inl (.inr (.inr hd))
  | unwritten h e =>
    rcases List.mem_append.1 hd with hd | hd
    · exact .inl (.inl hd)
    · exact .inr ⟨_, List.mem_singleton.1 hd⟩
  | written h =>
    rcases List.mem_append.1 hd with hd | hd
    · exact .inl (.inl hd)
    · rcases List.mem_cons.1 hd with rfl | hd
      · exact .inr ⟨_, rfl⟩
      · exact .inl (.inr (List.mem_append.1 hd))

/-- A report that ends well asks for what it was to ask for. -/
lemma Report.asked {s : GrantStatus} {before news after : List Deed} {a a' : Action}
    (h : Report g ns s before news after a ds (.ok a')) : a' = a := by
  cases h <;> rfl

/-- After a report that ends well the grant has the reported status or one that is as good, and
nothing else has changed. -/
lemma Report.stored_of_ok {s : GrantStatus} {before news after : List Deed} {a a' : Action}
    {o o' : Objects} (h : Report g ns s before news after a ds (.ok a'))
    (quiet : ∀ d, d ∈ before ∨ d ∈ news ∨ d ∈ after → d.Quiet)
    (hk : o.grants[(⟨ns, g.name⟩ : ObjectKey)]? = some g) (ha : o.Allows now ds o') :
    ∃ t, o'.grants[(⟨ns, g.name⟩ : ObjectKey)]? = some { g with status := some t } ∧
      (t = s ∨ (g.status = some t ∧ t.equivalent s = true)) := by
  cases h with
  | kept h =>
    -- nothing was written, so the status is the old one, which is as good
    have none_changed : o' = o := by
      refine Objects.allows_of_quiet (fun d hd => quiet d ?_) ha
      rcases List.mem_append.1 hd with hd | hd
      · exact .inl hd
      · exact .inr (.inr hd)
    subst none_changed
    cases hs : g.status with
    | none => simp [hs] at h
    | some t =>
      have same : t.equivalent s = true := by simpa [hs] using h
      exact ⟨t, by rw [hk, ← hs], .inr ⟨rfl, same⟩⟩
  | written h =>
    obtain ⟨o₁, h₁, h₂⟩ := Objects.allows_append.1 ha
    obtain rfl := Objects.allows_of_quiet (fun d hd => quiet d (.inl hd)) h₁
    rw [Objects.allows_ok] at h₂
    obtain rfl := Objects.allows_of_quiet
      (fun d hd => quiet d (.inr (List.mem_append.1 hd))) h₂.2
    refine ⟨s, ?_, .inl rfl⟩
    simp [Objects.answer, Objects.modifyGrant, hk]

/-- A report ends well unless the status cannot be written. -/
lemma Report.ok_of_undisturbed {s : GrantStatus} {before news after : List Deed} {a : Action}
    (h : Report g ns s before news after a ds r) (hu : Undisturbed ds) : r = .ok a := by
  cases h with
  | kept h => rfl
  | unwritten h e =>
    have failed := (undisturbed_append.1 hu).2
    exact absurd Deed.fails_error (undisturbed_cons.1 failed).1
  | written h => rfl

/-- After an undisturbed report the grant has the reported status or one that is as good, and
nothing else has changed. -/
lemma Report.stored {s : GrantStatus} {before news after : List Deed} {a : Action}
    {o o' : Objects} (h : Report g ns s before news after a ds r)
    (quiet : ∀ d, d ∈ before ∨ d ∈ news ∨ d ∈ after → d.Quiet)
    (hk : o.grants[(⟨ns, g.name⟩ : ObjectKey)]? = some g) (hu : Undisturbed ds)
    (ha : o.Allows now ds o') :
    r = .ok a ∧ ∃ t, o'.grants[(⟨ns, g.name⟩ : ObjectKey)]? = some { g with status := some t } ∧
      (t = s ∨ t.equivalent s = true) := by
  obtain rfl := h.ok_of_undisturbed hu
  obtain ⟨t, stored, same⟩ := h.stored_of_ok quiet hk ha
  exact ⟨rfl, t, stored, same.imp id And.right⟩

lemma runs_updateStatus_bind {s : GrantStatus} {f : Bool → Pass Action} :
    (updateStatus g ns s >>= f).run.Runs ds r ↔
      (g.status.any (·.equivalent s) = true ∧ (f false).run.Runs ds r) ∨
      (g.status.any (·.equivalent s) = false ∧
        ((∃ e, ds = [.request (.patchGrantStatus ⟨ns, g.name⟩ s) (.error e)] ∧
            r = .error (.ofApi e)) ∨
          ∃ ds', ds = .request (.patchGrantStatus ⟨ns, g.name⟩ s) (.ok ()) :: ds' ∧
            (f true).run.Runs ds' r)) := by
  unfold updateStatus
  cases hs : g.status.any (·.equivalent s) with
  | true => simp
  | false =>
    simp only [Bool.false_eq_true, if_false, bind_assoc, pure_bind, false_and, false_or, true_and]
    constructor
    · intro h
      rcases Pass.runs_send_bind.1 h with ⟨e, rfl, rfl⟩ | ⟨⟨⟩, ds', rfl, h₁⟩
      · exact .inl ⟨e, rfl, rfl⟩
      · exact .inr ⟨ds', rfl, h₁⟩
    · rintro (⟨e, rfl, rfl⟩ | ⟨ds', rfl, h⟩)
      · exact Pass.runs_send_bind.2 (.inl ⟨e, rfl, rfl⟩)
      · exact Pass.runs_send_bind.2 (.inr ⟨(), ds', rfl, h⟩)

/-- The event about a rejection. -/
def rejectionEvent (g : Grant) (rej : Rejection) : Event :=
  event g .warning rej.reason.text rej.eventAction rej.message

/-- How a rejection is reported. -/
abbrev Rejected (now : Timestamp) (g : Grant) (ns : String) (rej : Rejection) :
    List Deed → Except ReconcileFailure Action → Prop :=
  Report g ns (g.rejectedStatus now rej) []
    [.publish (rejectionEvent g rej)]
    [.measure (.grantReadiness g.spec.provider ns false)] rej.action

lemma quiet_rejection {rej : Rejection} {d : Deed}
    (hd : d ∈ ([] : List Deed) ∨ d ∈ [Deed.publish (rejectionEvent g rej)] ∨
      d ∈ [Deed.measure (.grantReadiness g.spec.provider ns false)]) : d.Quiet := by
  rcases hd with hd | hd | hd
  · simp at hd
  · simp [List.mem_singleton.1 hd]
  · simp [List.mem_singleton.1 hd]

lemma rejected_of_runs {rej : Rejection} (h : (reject now g ns rej).run.Runs ds r) :
    Rejected now g ns rej ds r := by
  unfold reject at h
  rcases runs_updateStatus_bind.1 h with ⟨hs, h₁⟩ | ⟨hs, ⟨e, rfl, rfl⟩ | ⟨ds₁, rfl, h₁⟩⟩
  · simp only [Bool.false_eq_true, if_false] at h₁
    obtain ⟨ds₂, rfl, h₂⟩ := Pass.runs_note_bind.1 h₁
    obtain ⟨rfl, rfl⟩ := runs_pure.1 h₂
    exact .kept hs
  · exact .unwritten hs e
  · simp only [if_true] at h₁
    obtain ⟨ds₂, rfl, h₂⟩ := Pass.runs_emit_bind.1 h₁
    obtain ⟨ds₃, rfl, h₃⟩ := Pass.runs_note_bind.1 h₂
    obtain ⟨rfl, rfl⟩ := runs_pure.1 h₃
    exact .written hs

/-- The event about an artifact that could not be made. -/
def failureEvent (g : Grant) (f : ProvisionFailure) : Event :=
  event g .warning GrantReason.provisioningFailed.text Event.provision f.message

/-- How it is reported that the artifact could not be made. -/
abbrev Failed (now : Timestamp) (g : Grant) (ns : String) (f : ProvisionFailure) :
    List Deed → Except ReconcileFailure Action → Prop :=
  Report g ns (g.failedStatus now f.message)
    [.measure (.provisioning g.spec.provider ns false),
      .measure (.rotationError g.spec.provider ns f.isRetryable)]
    [.publish (failureEvent g f)]
    [.measure (.grantReadiness g.spec.provider ns false)] (.requeueSeconds 30)

lemma quiet_failure {f : ProvisionFailure} {d : Deed}
    (hd : d ∈ [Deed.measure (.provisioning g.spec.provider ns false),
        .measure (.rotationError g.spec.provider ns f.isRetryable)] ∨
      d ∈ [Deed.publish (failureEvent g f)] ∨
      d ∈ [Deed.measure (.grantReadiness g.spec.provider ns false)]) : d.Quiet := by
  rcases hd with hd | hd | hd
  · simp only [List.mem_cons, List.not_mem_nil, or_false] at hd
    rcases hd with rfl | rfl <;> trivial
  · simp [List.mem_singleton.1 hd]
  · simp [List.mem_singleton.1 hd]

lemma failed_of_runs {f : ProvisionFailure} (h : (onFailed now g ns f).run.Runs ds r) :
    Failed now g ns f ds r := by
  unfold onFailed at h
  obtain ⟨ds₁, rfl, h₁⟩ := Pass.runs_note_bind.1 h
  obtain ⟨ds₂, rfl, h₂⟩ := Pass.runs_note_bind.1 h₁
  rcases runs_updateStatus_bind.1 h₂ with ⟨hs, h₃⟩ | ⟨hs, ⟨e, rfl, rfl⟩ | ⟨ds₃, rfl, h₃⟩⟩
  · simp only [Bool.false_eq_true, if_false] at h₃
    obtain ⟨ds₄, rfl, h₄⟩ := Pass.runs_note_bind.1 h₃
    obtain ⟨rfl, rfl⟩ := runs_pure.1 h₄
    exact .kept hs
  · exact .unwritten hs e
  · simp only [if_true] at h₃
    obtain ⟨ds₄, rfl, h₄⟩ := Pass.runs_emit_bind.1 h₃
    obtain ⟨ds₅, rfl, h₅⟩ := Pass.runs_note_bind.1 h₄
    obtain ⟨rfl, rfl⟩ := runs_pure.1 h₅
    exact .written hs

/-- The schedule of rotations that a pass at some time settles on. -/
def rotationOf (now : Timestamp) (g : Grant) (p : Provider) : Rotation :=
  Rotation.plan now g.statusOrEmpty (rotationInterval? g.spec p.spec)

/-- What is measured first when the artifact was made. -/
def rotationDeeds (now : Timestamp) (g : Grant) (ns : String) (p : Provider) : List Deed :=
  if (rotationOf now g p).due then [.measure (.rotation p.name ns)] else []

/-- What is told when the status of a grant whose artifact was made is written. -/
def readyNews (g : Grant) (result : ProvisionResult) : List Deed :=
  if g.state ≠ .ready then
    [.publish (event g .normal GrantReason.credentialReady.text Event.provision
      s!"Secret {result.ns}/{result.name} is ready")]
  else []

/-- What is measured last when the artifact was made. -/
def readyDeeds (now : Timestamp) (g : Grant) (ns : String) (p : Provider) : List Deed :=
  [.measure (.provisioning p.name ns true), .measure (.grantReadiness p.name ns true),
    .measure (.credentialAge p.name ns g.name
      (Rotation.millisBetween (rotationOf now g p).last now))] ++
  match (rotationOf now g p).next with
  | some next => [.measure (.nextRotation p.name ns g.name (Rotation.millisBetween now next))]
  | none => []

/-- How it is reported that the artifact was made; `look` is what is done to look at its
health. -/
abbrev Provisioned (now : Timestamp) (g : Grant) (ns : String) (p : Provider)
    (result : ProvisionResult) (look : List Deed) :
    List Deed → Except ReconcileFailure Action → Prop :=
  Report g ns (g.provisionedStatus now (rotationOf now g p) result)
    (rotationDeeds now g ns p) (readyNews g result) (readyDeeds now g ns p ++ look)
    (Rotation.wake now (rotationInterval? g.spec p.spec) (rotationOf now g p).next)

lemma quiet_rotationDeeds {p : Provider} : ∀ d ∈ rotationDeeds now g ns p, d.Quiet := by
  unfold rotationDeeds
  split <;> simp

lemma quiet_readyNews {result : ProvisionResult} : ∀ d ∈ readyNews g result, d.Quiet := by
  unfold readyNews
  split <;> simp

lemma quiet_readyDeeds {p : Provider} : ∀ d ∈ readyDeeds now g ns p, d.Quiet := by
  unfold readyDeeds
  split <;> simp

lemma quiet_provisioned {p : Provider} {result : ProvisionResult} {look : List Deed} {d : Deed}
    (reads : ∀ d ∈ look, d.Reads)
    (hd : d ∈ rotationDeeds now g ns p ∨ d ∈ readyNews g result ∨
      d ∈ readyDeeds now g ns p ++ look) : d.Quiet := by
  rcases hd with hd | hd | hd
  · exact quiet_rotationDeeds d hd
  · exact quiet_readyNews d hd
  · rcases List.mem_append.1 hd with hd | hd
    · exact quiet_readyDeeds d hd
    · exact (reads d hd).quiet

/-- The end of a pass that made the artifact. -/
def close (now : Timestamp) (g : Grant) (ns : String) (p : Provider) (s : Strategy) :
    Pass Action := do
  Pass.note (.provisioning p.name ns true)
  Pass.note (.grantReadiness p.name ns true)
  Pass.note (.credentialAge p.name ns g.name (Rotation.millisBetween (rotationOf now g p).last now))
  if let some next := (rotationOf now g p).next then
    Pass.note (.nextRotation p.name ns g.name (Rotation.millisBetween now next))
  let _ ← ExceptT.lift (s.healthCheck now p g).run
  pure (Rotation.wake now (rotationInterval? g.spec p.spec) (rotationOf now g p).next)

lemma closed_of_runs {p : Provider} {s : Strategy} (hns : g.metadata.ns = some ns)
    (h : (close now g ns p s).run.Runs ds r) :
    ∃ look, (∀ d ∈ look, d.Reads) ∧ ds = readyDeeds now g ns p ++ look ∧
      r = .ok (Rotation.wake now (rotationInterval? g.spec p.spec) (rotationOf now g p).next) := by
  unfold close at h
  obtain ⟨ds₁, rfl, h₁⟩ := Pass.runs_note_bind.1 h
  obtain ⟨ds₂, rfl, h₂⟩ := Pass.runs_note_bind.1 h₁
  obtain ⟨ds₃, rfl, h₃⟩ := Pass.runs_note_bind.1 h₂
  cases hn : (rotationOf now g p).next with
  | none =>
    simp only [hn] at h₃
    obtain ⟨look, _, ds₅, h₄, h₅, rfl⟩ := runs_lift_bind.1 h₃
    obtain ⟨rfl, rfl⟩ := runs_pure.1 h₅
    exact ⟨look, Strategy.healthCheck_reads hns h₄, by simp [readyDeeds, hn], rfl⟩
  | some next =>
    simp only [hn] at h₃
    obtain ⟨ds₄, rfl, h₄⟩ := Pass.runs_note_bind.1 h₃
    obtain ⟨look, _, ds₆, h₅, h₆, rfl⟩ := runs_lift_bind.1 h₄
    obtain ⟨rfl, rfl⟩ := runs_pure.1 h₆
    exact ⟨look, Strategy.healthCheck_reads hns h₅, by simp [readyDeeds, hn], rfl⟩

/-- What a pass that made the artifact does once rotations are counted. -/
def tell (now : Timestamp) (g : Grant) (ns : String) (p : Provider) (s : Strategy)
    (result : ProvisionResult) : Pass Action := do
  if ← updateStatus g ns (g.provisionedStatus now (rotationOf now g p) result) then
    if g.state ≠ .ready then
      Pass.emit (event g .normal GrantReason.credentialReady.text Event.provision
        s!"Secret {result.ns}/{result.name} is ready")
  close now g ns p s

lemma onProvisioned_eq (p : Provider) (s : Strategy) (result : ProvisionResult) :
    onProvisioned now g ns p s result =
      if (rotationOf now g p).due then do
        Pass.note (.rotation p.name ns)
        tell now g ns p s result
      else tell now g ns p s result := rfl

lemma provisioned_of_runs {p : Provider} {s : Strategy} {result : ProvisionResult}
    (hns : g.metadata.ns = some ns) (h : (onProvisioned now g ns p s result).run.Runs ds r) :
    ∃ look, (∀ d ∈ look, d.Reads) ∧ Provisioned now g ns p result look ds r := by
  -- a rotation that is due is counted first, and the rest is the same either way
  have told : ∀ {es : List Deed}, (tell now g ns p s result).run.Runs es r →
      ∃ look, (∀ d ∈ look, d.Reads) ∧
        Report g ns (g.provisionedStatus now (rotationOf now g p) result) []
          (readyNews g result) (readyDeeds now g ns p ++ look)
          (Rotation.wake now (rotationInterval? g.spec p.spec) (rotationOf now g p).next) es r := by
    intro es h
    unfold tell at h
    rcases runs_updateStatus_bind.1 h with ⟨hs, h₁⟩ | ⟨hs, ⟨e, rfl, rfl⟩ | ⟨es₁, rfl, h₁⟩⟩
    · simp only [Bool.false_eq_true, if_false] at h₁
      obtain ⟨look, reads, rfl, rfl⟩ := closed_of_runs hns h₁
      exact ⟨look, reads, .kept hs⟩
    · exact ⟨[], by simp, .unwritten hs e⟩
    · simp only [if_true] at h₁
      split at h₁
      case isTrue hg =>
        obtain ⟨es₂, rfl, h₂⟩ := Pass.runs_emit_bind.1 h₁
        obtain ⟨look, reads, rfl, rfl⟩ := closed_of_runs hns h₂
        refine ⟨look, reads, ?_⟩
        rw [readyNews, if_pos hg]
        exact .written hs
      case isFalse hg =>
        obtain ⟨look, reads, rfl, rfl⟩ := closed_of_runs hns h₁
        refine ⟨look, reads, ?_⟩
        rw [readyNews, if_neg hg]
        exact .written hs
  rw [onProvisioned_eq] at h
  split at h
  case isTrue due =>
    obtain ⟨ds₁, rfl, h₁⟩ := Pass.runs_note_bind.1 h
    obtain ⟨look, reads, report⟩ := told h₁
    refine ⟨look, reads, ?_⟩
    have counted := report.after (rotationDeeds now g ns p)
    rw [rotationDeeds, if_pos due] at counted
    rw [Provisioned, rotationDeeds, if_pos due]
    exact counted
  case isFalse due =>
    obtain ⟨look, reads, report⟩ := told h
    refine ⟨look, reads, ?_⟩
    rw [Provisioned, rotationDeeds, if_neg due]
    exact report

/-! ## Serving and releasing -/

/-- The ways in which a grant can be served. -/
inductive Serving (now : Timestamp) (g : Grant) (ns : String) :
    List Deed → Except ReconcileFailure Action → Prop where
  /-- The provider cannot be read. -/
  | providerUnread (e : ApiFailure) :
      Serving now g ns [.request (.getProvider g.spec.provider) (.error e)] (.error (.ofApi e))
  /-- There is no such provider. -/
  | providerMissing {ds : List Deed} {r : Except ReconcileFailure Action}
      (report : Rejected now g ns (.providerNotFound g.spec.provider) ds r) :
      Serving now g ns (.request (.getProvider g.spec.provider) (.ok none) :: ds) r
  /-- The labels of the namespace cannot be read. -/
  | namespaceUnread (p : Provider) (e : ApiFailure) :
      Serving now g ns
        [.request (.getProvider g.spec.provider) (.ok (some p)),
          .request (.getNamespaceLabels ns) (.error e)]
        (.error (.ofApi e))
  /-- The provider does not allow what is asked for. -/
  | refused {p : Provider} {labels : Option StringMap} {rej : Rejection} {ds : List Deed}
      {r : Except ReconcileFailure Action} (gate : g.gate ns p labels = .error rej)
      (report : Rejected now g ns rej ds r) :
      Serving now g ns
        (.request (.getProvider g.spec.provider) (.ok (some p)) ::
          .request (.getNamespaceLabels ns) (.ok labels) :: ds) r
  /-- The artifact cannot be made. -/
  | failed {p : Provider} {labels : Option StringMap} {s : Strategy} {f : ProvisionFailure}
      {ds₁ ds₂ : List Deed} {r : Except ReconcileFailure Action}
      (gate : g.gate ns p labels = .ok s) (attempt : s.Attempt now p g ns ds₁ (.error f))
      (report : Failed now g ns f ds₂ r) :
      Serving now g ns
        (.request (.getProvider g.spec.provider) (.ok (some p)) ::
          .request (.getNamespaceLabels ns) (.ok labels) :: (ds₁ ++ ds₂)) r
  /-- The artifact is made. -/
  | provisioned {p : Provider} {labels : Option StringMap} {s : Strategy}
      {result : ProvisionResult} {ds₁ ds₂ look : List Deed} {r : Except ReconcileFailure Action}
      (gate : g.gate ns p labels = .ok s) (attempt : s.Attempt now p g ns ds₁ (.ok result))
      (reads : ∀ d ∈ look, d.Reads) (report : Provisioned now g ns p result look ds₂ r) :
      Serving now g ns
        (.request (.getProvider g.spec.provider) (.ok (some p)) ::
          .request (.getNamespaceLabels ns) (.ok labels) :: (ds₁ ++ ds₂)) r

/-- Whoever serves a grant asks for its provider first. -/
lemma Serving.begins (h : Serving now g ns ds r) :
    ∃ o rest, ds = .request (.getProvider g.spec.provider) o :: rest := by
  cases h <;> exact ⟨_, _, rfl⟩

/-- Serving a grant reads, writes the status, and makes an attempt at the artifact once the provider
and the namespace were looked up. -/
lemma Serving.attempted (h : Serving now g ns ds r) {d : Deed} (hd : d ∈ ds) :
    d.Quiet ∨ (∃ t o, d = .request (.patchGrantStatus ⟨ns, g.name⟩ t) o) ∨
      ∃ p labels s es result rest, Strategy.Attempt s now p g ns es result ∧ d ∈ es ∧
        ds = .request (.getProvider g.spec.provider) (.ok (some p)) ::
          .request (.getNamespaceLabels ns) (.ok labels) :: (es ++ rest) := by
  have reported : ∀ {s : GrantStatus} {before news after es : List Deed} {a : Action},
      Report g ns s before news after a es r →
      (∀ d, d ∈ before ∨ d ∈ news ∨ d ∈ after → d.Quiet) → d ∈ es →
      d.Quiet ∨ ∃ t o, d = .request (.patchGrantStatus ⟨ns, g.name⟩ t) o :=
    fun report quiet hd => (report.mem hd).imp (quiet d) fun ⟨o, same⟩ => ⟨_, o, same⟩
  cases h with
  | providerUnread e =>
    obtain rfl := List.mem_singleton.1 hd
    exact .inl rfl
  | namespaceUnread p e =>
    simp only [List.mem_cons, List.not_mem_nil, or_false] at hd
    rcases hd with rfl | rfl <;> exact .inl rfl
  | providerMissing report =>
    rcases List.mem_cons.1 hd with rfl | hd
    · exact .inl rfl
    · exact (reported report (fun _ => quiet_rejection) hd).imp id .inl
  | refused gate report =>
    simp only [List.mem_cons] at hd
    rcases hd with rfl | rfl | hd
    · exact .inl rfl
    · exact .inl rfl
    · exact (reported report (fun _ => quiet_rejection) hd).imp id .inl
  | failed gate attempt report =>
    simp only [List.mem_cons, List.mem_append] at hd
    rcases hd with rfl | rfl | hd | hd
    · exact .inl rfl
    · exact .inl rfl
    · exact .inr (.inr ⟨_, _, _, _, _, _, attempt, hd, rfl⟩)
    · exact (reported report (fun _ => quiet_failure) hd).imp id .inl
  | provisioned gate attempt reads report =>
    simp only [List.mem_cons, List.mem_append] at hd
    rcases hd with rfl | rfl | hd | hd
    · exact .inl rfl
    · exact .inl rfl
    · exact .inr (.inr ⟨_, _, _, _, _, _, attempt, hd, rfl⟩)
    · exact (reported report (fun _ => quiet_provisioned reads) hd).imp id .inl

lemma serving_of_runs (hns : g.metadata.ns = some ns) (h : (serve now g ns).run.Runs ds r) :
    Serving now g ns ds r := by
  unfold serve at h
  rcases Pass.runs_send_bind.1 h with ⟨e, rfl, rfl⟩ | ⟨found, ds₁, rfl, h₁⟩
  · exact .providerUnread e
  cases found with
  | none => exact .providerMissing (rejected_of_runs h₁)
  | some p =>
    rcases Pass.runs_send_bind.1 h₁ with ⟨e, rfl, rfl⟩ | ⟨labels, ds₂, rfl, h₂⟩
    · exact .namespaceUnread p e
    cases hg : g.gate ns p labels with
    | error rej =>
      simp only [hg] at h₂
      exact .refused hg (rejected_of_runs h₂)
    | ok s =>
      simp only [hg, provision] at h₂
      obtain ⟨ds₃, outcome, ds₄, h₃, h₄, rfl⟩ := runs_lift_bind.1 h₂
      have attempt := Strategy.attempt_of_runs hns h₃
      cases outcome with
      | ok result =>
        obtain ⟨look, reads, report⟩ := provisioned_of_runs hns h₄
        exact .provisioned hg attempt reads report
      | error f => exact .failed hg attempt (failed_of_runs h₄)

/-- The event about an artifact that was removed. -/
def removedEvent (g : Grant) (ns : String) : Event :=
  event g .normal Event.cleanupComplete Event.cleanup s!"Secret {ns}/{g.spec.secretName} removed"

/-- The event about an artifact that could not be removed. -/
def unremovedEvent (g : Grant) (f : ProvisionFailure) : Event :=
  event g .warning Event.cleanupFailed Event.cleanup f.message

/-- The end of a pass with a last request. -/
def lastly (o : Except ApiFailure Unit) (a : Action) : Except ReconcileFailure Action :=
  match o with
  | .ok () => .ok a
  | .error e => .error (.ofApi e)

/-- The ways in which a grant with the finalizer that is being deleted can be released. -/
inductive Releasing (g : Grant) (ns : String) :
    List Deed → Except ReconcileFailure Action → Prop where
  /-- The provider cannot be read. -/
  | providerUnread (e : ApiFailure) :
      Releasing g ns [.request (.getProvider g.spec.provider) (.error e)] (.error (.ofApi e))
  /-- There is nothing that could be removed. -/
  | unserved {p : Provider} {o : Except ApiFailure Unit} (hs : Strategy.ofProvider? p = none) :
      Releasing g ns
        [.request (.getProvider g.spec.provider) (.ok (some p)),
          .request (.removeFinalizer ⟨ns, g.name⟩ cleanupFinalizer) o]
        (lastly o .awaitChange)
  /-- The artifact cannot be removed. -/
  | unremoved {found : Option Provider} {s : Strategy} (hs : cleanupStrategy? found = some s)
      (context : String) (e : ApiFailure) :
      Releasing g ns
        [.request (.getProvider g.spec.provider) (.ok found),
          s.removal (g.artifactKey ns) (.error e),
          .publish (unremovedEvent g (.cluster context e))]
        (.error (.ofFailure (ProvisionFailure.cluster context e).toFailure))
  /-- The artifact is removed. -/
  | removed {provider : Option Provider} {s : Strategy} (hs : cleanupStrategy? provider = some s)
      (found : Bool) (o : Except ApiFailure Unit) :
      Releasing g ns
        [.request (.getProvider g.spec.provider) (.ok provider),
          s.removal (g.artifactKey ns) (.ok found), .publish (removedEvent g ns),
          .request (.removeFinalizer ⟨ns, g.name⟩ cleanupFinalizer) o]
        (lastly o .awaitChange)

/-- Releasing a grant reads, gives the news, and asks for the artifact and the finalizer to be
removed. -/
lemma Releasing.mem (h : Releasing g ns ds r) {d : Deed} (hd : d ∈ ds) :
    d.Quiet ∨ (∃ (s : Strategy) (o : Except ApiFailure Bool), d = s.removal (g.artifactKey ns) o) ∨
      ∃ o, d = .request (.removeFinalizer ⟨ns, g.name⟩ cleanupFinalizer) o := by
  cases h with
  | providerUnread e =>
    obtain rfl := List.mem_singleton.1 hd
    exact .inl rfl
  | unserved hs =>
    simp only [List.mem_cons, List.not_mem_nil, or_false] at hd
    rcases hd with rfl | rfl
    · exact .inl rfl
    · exact .inr (.inr ⟨_, rfl⟩)
  | unremoved hs context e =>
    simp only [List.mem_cons, List.not_mem_nil, or_false] at hd
    rcases hd with rfl | rfl | rfl
    · exact .inl rfl
    · exact .inr (.inl ⟨_, _, rfl⟩)
    · exact .inl trivial
  | removed hs found o =>
    simp only [List.mem_cons, List.not_mem_nil, or_false] at hd
    rcases hd with rfl | rfl | rfl | rfl
    · exact .inl rfl
    · exact .inr (.inl ⟨_, _, rfl⟩)
    · exact .inl trivial
    · exact .inr (.inr ⟨_, rfl⟩)

lemma releasing_of_runs (hns : g.metadata.ns = some ns) (hf : hasFinalizer g = true)
    (h : (release g ns).run.Runs ds r) : Releasing g ns ds r := by
  unfold release at h
  simp only [hf, if_true] at h
  rcases Pass.runs_send_bind.1 h with ⟨e, rfl, rfl⟩ | ⟨provider, ds₁, rfl, h₁⟩
  · exact .providerUnread e
  cases hs : cleanupStrategy? provider with
  | none =>
    simp only [hs] at h₁
    cases provider with
    -- if the provider is gone, there is a strategy
    | none => simp [cleanupStrategy?] at hs
    | some p =>
      rcases Pass.runs_send_bind.1 h₁ with ⟨e, rfl, rfl⟩ | ⟨⟨⟩, ds₂, rfl, h₂⟩
      · exact .unserved (o := .error e) hs
      · obtain ⟨rfl, rfl⟩ := runs_pure.1 h₂
        exact .unserved (o := .ok ()) hs
  | some s =>
    simp only [hs, cleanup, bind_assoc] at h₁
    obtain ⟨ds₂, outcome, ds₃, h₂, h₃, rfl⟩ := runs_lift_bind.1 h₁
    rcases Strategy.cleanup_runs hns h₂ with ⟨context, e, rfl, rfl⟩ | ⟨found, rfl, rfl⟩
    · simp only [bind_assoc] at h₃
      obtain ⟨ds₄, rfl, h₄⟩ := Pass.runs_emit_bind.1 h₃
      rcases runs_run_bind.1 h₄ with ⟨f, h₅, rfl⟩ | ⟨ds₅, _, ds₆, h₅, -, -⟩
      · obtain ⟨rfl, thrown⟩ := runs_throw.1 h₅
        obtain rfl := Except.error.inj thrown
        exact .unremoved hs context e
      · exact absurd (runs_throw.1 h₅).2 (by simp)
    · simp only at h₃
      obtain ⟨ds₄, rfl, h₄⟩ := Pass.runs_emit_bind.1 h₃
      rcases Pass.runs_send_bind.1 h₄ with ⟨e, rfl, rfl⟩ | ⟨⟨⟩, ds₅, rfl, h₅⟩
      · exact .removed hs found (.error e)
      · obtain ⟨rfl, rfl⟩ := runs_pure.1 h₅
        exact .removed hs found (.ok ())

/-- The ways in which a pass over a grant can go, before it is measured. -/
inductive Course (now : Timestamp) (g : Grant) :
    List Deed → Except ReconcileFailure Action → Prop where
  /-- The grant has no namespace. -/
  | homeless (hns : g.metadata.ns = none) :
      Course now g [] (.error (.validation s!"CredentialGrant {g.name} has no namespace"))
  /-- The grant is being deleted and was released before. -/
  | released {ns : String} (hns : g.metadata.ns = some ns) (hd : g.isDeleting = true)
      (hf : hasFinalizer g = false) : Course now g [] (.ok .awaitChange)
  /-- The grant is being deleted and is to be released. -/
  | releasing {ns : String} {ds : List Deed} {r : Except ReconcileFailure Action}
      (hns : g.metadata.ns = some ns) (hd : g.isDeleting = true) (hf : hasFinalizer g = true)
      (rest : Releasing g ns ds r) : Course now g ds r
  /-- The grant has no finalizer yet. -/
  | claiming {ns : String} (hns : g.metadata.ns = some ns) (hd : g.isDeleting = false)
      (hf : hasFinalizer g = false) (o : Except ApiFailure Unit) :
      Course now g [.request (.addFinalizer ⟨ns, g.name⟩ cleanupFinalizer) o]
        (lastly o (.requeueSeconds 0))
  /-- The grant is served. -/
  | serving {ns : String} {ds : List Deed} {r : Except ReconcileFailure Action}
      (hns : g.metadata.ns = some ns) (hd : g.isDeleting = false) (hf : hasFinalizer g = true)
      (rest : Serving now g ns ds r) : Course now g ds r

lemma quiet_endDeeds : ∀ d ∈ Pass.endDeeds .grants r, d.Quiet := by
  cases r <;> simp [Pass.endDeeds]

/-- A pass has no other runs, but for its measurement. -/
theorem course_of_runs (h : (reconcileGrant now g).run.Runs ds r) :
    ∃ ds', Course now g ds' r ∧ ds = ds' ++ Pass.endDeeds .grants r := by
  obtain ⟨ds', h', rfl⟩ := Pass.runs_measured.1 h
  refine ⟨ds', ?_, rfl⟩
  unfold body at h'
  cases hns : g.metadata.ns with
  | none =>
    simp only [hns, runs_throw] at h'
    obtain ⟨rfl, rfl⟩ := h'
    exact .homeless hns
  | some ns =>
    simp only [hns] at h'
    cases hd : g.isDeleting with
    | true =>
      simp only [hd, if_true] at h'
      cases hf : hasFinalizer g with
      | true => exact .releasing hns hd hf (releasing_of_runs hns hf h')
      | false =>
        simp only [release, hf, Bool.false_eq_true, if_false, runs_pure] at h'
        obtain ⟨rfl, rfl⟩ := h'
        exact .released hns hd hf
    | false =>
      simp only [hd, Bool.false_eq_true, if_false] at h'
      cases hf : hasFinalizer g with
      | true =>
        simp only [hf, if_true] at h'
        exact .serving hns hd hf (serving_of_runs hns h')
      | false =>
        simp only [hf, Bool.false_eq_true, if_false] at h'
        rcases Pass.runs_send_bind.1 h' with ⟨e, rfl, rfl⟩ | ⟨⟨⟩, ds₁, rfl, h₁⟩
        · exact .claiming hns hd hf (.error e)
        · obtain ⟨rfl, rfl⟩ := runs_pure.1 h₁
          exact .claiming hns hd hf (.ok ())

/-- The measurement of a pass changes nothing, so that what the cluster holds after the course of
the pass it holds in the end. -/
lemma course_of_allowed {o o' : Objects} (h : (reconcileGrant now g).run.Runs ds r)
    (ha : o.Allows now ds o') :
    ∃ ds', Course now g ds' r ∧ o.Allows now ds' o' ∧ ds = ds' ++ Pass.endDeeds .grants r := by
  obtain ⟨ds', course, rfl⟩ := course_of_runs h
  obtain ⟨o₁, allowed, rest⟩ := Objects.allows_append.1 ha
  obtain rfl := Objects.allows_of_quiet quiet_endDeeds rest
  exact ⟨ds', course, allowed, rfl⟩

/-- A deed of a pass that is not quiet is one of its course. -/
lemma mem_course {d : Deed} (hd : d ∈ ds ++ Pass.endDeeds .grants r) (loud : ¬ d.Quiet) :
    d ∈ ds := by
  rcases List.mem_append.1 hd with hd | hd
  · exact hd
  · exact absurd (quiet_endDeeds d hd) loud

end GrantPass

end CredentialOperator
