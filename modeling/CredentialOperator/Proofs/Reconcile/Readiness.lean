import CredentialOperator.Proofs.Json.NormalForm
import CredentialOperator.Proofs.Reconcile.Authority

/-!
# What is behind a grant that is ready

A pass that says of a grant that it is ready (`GrantPass.SaysReady`) has made the artifact, and has
left it as it was made.  What the health check of the strategy says of the artifact afterwards
depends on the strategy.  A key that was copied is there to be used.  An ExternalSecret, however, is
as ready as it was before: the External Secrets Operator has not looked at it yet, and what it said
of the one that stood there is kept.  So a grant becomes ready with the first ExternalSecret, whose
report is that nothing was copied yet (`ready_without_sync`); the pass looks at that report and
warns, but does not wait for it.
-/

namespace CredentialOperator

/-- The External Secrets Operator has told of the ExternalSecret at a place that the value was
copied. -/
def Objects.Synced (o : Objects) (key : ObjectKey) : Prop :=
  ∃ object, o.others[key]? = some object ∧ (SyncStatus.ofObject object).ready = true

/-! ## What is said of an ExternalSecret -/

/-- Of an object without a status nothing has been said. -/
lemma SyncStatus.not_ready_of_none {object : DynamicObject} (h : object.get? "status" = none) :
    (ofObject object).ready = false := by
  simp [ofObject, h, pending]

lemma SyncStatus.ofObject_congr {a b : DynamicObject} (h : a.get? "status" = b.get? "status") :
    ofObject a = ofObject b := by
  simp only [ofObject, h]

/-- The object that is built for a request has no status. -/
lemma SyncRequest.data_build {q : SyncRequest} {ns name : String} {labels : StringMap}
    {built : DynamicObject} (hb : q.build ns name labels = .ok built) :
    Json.Ascending built.data ∧ built.get? "status" = none := by
  obtain rfl := Except.ok.inj (hb.symm.trans (q.build_eq ns name labels))
  refine ⟨.normalizeFields .nil _, ?_⟩
  rw [DynamicObject.get?, Json.lookup_normalize]
  rfl

/-- What is said of an object that has been written anew is what was said of the one before. -/
lemma Objects.ready_storedObject {old : Option DynamicObject} {new : DynamicObject}
    (ascending : Json.Ascending new.data) (fresh : new.get? "status" = none) :
    (SyncStatus.ofObject (storedObject old new)).ready = true ↔
      ∃ object, old = some object ∧ (SyncStatus.ofObject object).ready = true := by
  cases old with
  | none => simp [storedObject, SyncStatus.not_ready_of_none fresh]
  | some object =>
    have kept : (storedObject (some object) new).get? "status" = object.get? "status" := by
      cases said : object.get? "status" with
      | none => simpa [storedObject, said] using fresh
      | some status =>
        have stored : storedObject (some object) new =
            { new with data := Json.setOrdered new.data "status" status } := by
          simp only [storedObject, Option.bind_some, said]
        rw [stored, DynamicObject.get?, Json.lookup_setOrdered ascending, if_pos rfl]
    simp [SyncStatus.ofObject_congr kept]

/-! ## Artifacts that were made -/

section

variable {now : Timestamp} {p : Provider} {g : Grant} {ns : String} {ds : List Deed}
  {result : ProvisionResult} {o o' : Objects}

/-- A Secret at a place holds the key that pods ask for. -/
def Objects.KeyAt (o : Objects) (key : ObjectKey) : Prop :=
  ∃ secret, o.secrets[key]? = some secret ∧ secret.holds apiKeyKey = true

/-- The copy of a master key holds a key. -/
lemma DirectCopy.Attempt.keyAt (h : DirectCopy.Attempt now p g ns ds (.ok result))
    (ha : o.Allows now ds o') : o'.KeyAt (g.artifactKey ns) := by
  cases h with
  | @written k master value _ _ old =>
    obtain ⟨-, -, -, rfl⟩ := ha
    refine ⟨_, Std.ExtTreeMap.getElem?_insert_self, ?_⟩
    cases hu : p.spec.baseUrl? <;>
      simp [Objects.storedSecret, artifact, Secret.holds, artifactData, hu]

/-- An ExternalSecret is synced after it was written if it was so before. -/
lemma DelegatedSync.Attempt.synced (h : DelegatedSync.Attempt now p g ns ds (.ok result))
    (ha : o.Allows now ds o') :
    (∃ object, o'.others[g.artifactKey ns]? = some object) ∧
      (o'.Synced (g.artifactKey ns) ↔ o.Synced (g.artifactKey ns)) := by
  cases h with
  | @written c built _ hb _ =>
    obtain ⟨-, rfl⟩ := ha
    obtain ⟨ascending, fresh⟩ := SyncRequest.data_build hb
    have here : ((o.answer now (.applyDynamic externalSecretKind (g.artifactKey ns)
        (artifact g built))).2).others[g.artifactKey ns]? =
          some (Objects.storedObject o.others[g.artifactKey ns]? (artifact g built)) :=
      Std.ExtTreeMap.getElem?_insert_self
    refine ⟨⟨_, here⟩, ?_⟩
    simp only [Objects.Synced, here, Option.some.injEq, exists_eq_left']
    exact Objects.ready_storedObject ascending fresh

end

/-! ## What the health check reports -/

section

variable {now : Timestamp} {p : Provider} {g : Grant} {ns : String} {ds : List Deed}
  {h : Except ProvisionFailure HealthReport} {o o' : Objects}

/-- Looking for the warning about the master Secret does not fail. -/
lemma DirectCopy.sourceWarnings_ok {r : Except ProvisionFailure (List String)}
    (runs : (sourceWarnings p).run.Runs ds r) : ∃ warnings, r = .ok warnings := by
  unfold sourceWarnings at runs
  cases block : p.spec.auth.apiKey with
  | none =>
    simp only [block, runs_pure] at runs
    exact ⟨_, runs.2⟩
  | some k =>
    simp only [block, runs_mk, Program.runs_bind] at runs
    obtain ⟨ds₁, found, ds₂, -, rest, -⟩ := runs
    rcases found with e | _ | master
    all_goals exact ⟨_, (Program.runs_done.1 rest).2⟩

/-- A copied key that is there is reported to be healthy, whether or not the master Secret can be
read. -/
lemma DirectCopy.healthy_of_keyAt (hns : g.metadata.ns = some ns)
    (held : o.KeyAt (g.artifactKey ns)) (runs : (healthCheck now p g).run.Runs ds h)
    (allowed : o.Allows now ds o') (undisturbed : Undisturbed ds) :
    ∃ report, h = .ok report ∧ report.healthy = true := by
  obtain ⟨secret, found, holds⟩ := held
  simp only [healthCheck, Provisioning.namespaceOf_eq hns, pure_bind] at runs
  rcases Provisioning.runs_send_bind.1 runs with ⟨e, rfl, -⟩ | ⟨read, ds₁, rfl, rest⟩
  · exact absurd Deed.fails_error (undisturbed_cons.1 undisturbed).1
  obtain rfl : some secret = read := found.symm.trans allowed.1
  simp only [holds, if_true] at rest
  rcases runs_run_bind.1 rest with ⟨e, failed, -⟩ | ⟨ds₂, warnings, ds₃, -, told, -⟩
  · obtain ⟨warnings, fine⟩ := sourceWarnings_ok failed
    cases fine
  · exact ⟨_, (runs_pure.1 told).2, rfl⟩

/-- The report on an ExternalSecret that is there says what was said of it. -/
lemma DelegatedSync.healthy_iff_synced (hns : g.metadata.ns = some ns)
    (there : ∃ object, o.others[g.artifactKey ns]? = some object)
    (runs : (healthCheck g).run.Runs ds h) (allowed : o.Allows now ds o')
    (undisturbed : Undisturbed ds) :
    ∃ report, h = .ok report ∧ (report.healthy = true ↔ o.Synced (g.artifactKey ns)) := by
  obtain ⟨object, found⟩ := there
  rcases healthCheck_runs hns runs with ⟨context, e, rfl, -⟩ | ⟨read, rfl, rfl⟩
  · exact absurd Deed.fails_error (undisturbed_cons.1 undisturbed).1
  obtain rfl : some object = read := found.symm.trans allowed.1
  exact ⟨_, rfl, by simp [reportOn, report, Objects.Synced, found]⟩

/-- Looking at the health of an artifact changes nothing. -/
lemma Strategy.unchanged_by_healthCheck {s : Strategy} (hns : g.metadata.ns = some ns)
    (runs : (s.healthCheck now p g).run.Runs ds h) (allowed : o.Allows now ds o') : o' = o :=
  Objects.allows_of_quiet (fun d hd => (healthCheck_reads hns runs d hd).quiet) allowed

end

/-! ## Passes that say that a grant is ready -/

namespace GrantPass

variable {now : Timestamp} {g : Grant} {ns : String} {ds es : List Deed} {f : Finding}
  {r : Except ReconcileFailure Action} {o o' : Objects}

/-- A pass says that a grant is ready. -/
inductive SaysReady (g : Grant) (ds : List Deed) (r : Except ReconcileFailure Action) : Prop where
  /-- It hands over a status that says so. -/
  | handed {key : ObjectKey} {t : GrantStatus} {out : Except ApiFailure Unit}
      (mem : .request (.patchGrantStatus key t) out ∈ ds) (ready : t.IsReady)
  /-- It ends well over a grant that is to be served, and leaves such a status there. -/
  | left {a : Action} {t : GrantStatus} (kept : g.metadata.deletionTimestamp = none)
      (claimed : cleanupFinalizer ∈ g.finalizers) (ended : r = .ok a)
      (status : statusAfter g.status ds = some t) (ready : t.IsReady)

/-- If what a pass found is reported, it says that a grant is ready only of one whose artifact it
made. -/
lemma SaysReady.made (said : SaysReady g ds r) (reported : Reported now g f ds) :
    ∃ p result, f = .provisioned p result := by
  have computed : (f.status now g).IsReady := by
    cases said with
    | handed mem ready => rwa [← reported.handed_eq mem]
    | left _ _ _ status ready =>
      rwa [← Option.some.inj (status.symm.trans reported.statusAfter)]
  exact f.state_iff.2.2.2.1 ((f.state_status now g).symm.trans computed)

/-- A pass that does nothing with grants but read, and fails, says nothing. -/
lemma not_saysReady_of_failed {e : ReconcileFailure} (silent : ∀ d ∈ ds, d.Silent) :
    ¬ SaysReady g ds (.error e) := by
  rintro (⟨mem, -⟩ | ⟨-, -, ended, -⟩)
  · exact absurd (silent _ mem) id
  · cases ended

/-- Serving a grant says that it is ready only if it makes the artifact. -/
lemma Serving.made_of_saysReady (h : Serving now g ns ds r)
    (said : SaysReady g (ds ++ Pass.endDeeds .grants r) r) :
    ∃ p labels s result ds₁ ds₂ look, g.gate ns p labels = .ok s ∧
      s.Attempt now p g ns ds₁ (.ok result) ∧ (∀ d ∈ look, d.Reads) ∧
      Provisioned now g ns p result look ds₂ r ∧
      ds = .request (.getProvider g.spec.provider) (.ok (some p)) ::
        .request (.getNamespaceLabels ns) (.ok labels) :: (ds₁ ++ ds₂) := by
  have measured : ∀ d ∈ Pass.endDeeds .grants r, d.Silent := by
    cases r <;> simp [Pass.endDeeds, Deed.Silent]
  -- what is reported of other findings than the last one excludes that the grant is ready
  have excluded : ∀ {f : Finding}, Reported now g f ds → (∀ p result, f ≠ .provisioned p result) →
      False := by
    intro f reported other
    obtain ⟨p, result, rfl⟩ := said.made (reported.before _ measured)
    exact other p result rfl
  cases h with
  | providerUnread e =>
    exact absurd said (not_saysReady_of_failed (by simp [Pass.endDeeds, Deed.Silent]))
  | namespaceUnread p e =>
    exact absurd said (not_saysReady_of_failed (by simp [Pass.endDeeds, Deed.Silent]))
  | providerMissing report =>
    exact (excluded (report.reported.after [_] (by simp [Deed.Silent])) (by simp)).elim
  | refused gate report =>
    exact (excluded (report.reported.after [_, _] (by simp [Deed.Silent])) (by simp)).elim
  | failed gate attempt report =>
    refine (excluded (report.reported.after (_ :: _ :: _) ?_) (by simp)).elim
    simpa [Deed.Silent] using attempt.silent
  | provisioned gate attempt reads report =>
    exact ⟨_, _, _, _, _, _, _, gate, attempt, reads, report, rfl⟩

/-- A pass that says that a grant is ready has served it. -/
lemma SaysReady.serving (runs : (reconcileGrant now g).run.Runs ds r) (said : SaysReady g ds r) :
    ∃ ns es, g.metadata.ns = some ns ∧ Serving now g ns es r ∧
      ds = es ++ Pass.endDeeds .grants r := by
  obtain ⟨es, course, rfl⟩ := course_of_runs runs
  -- where nothing is handed out, the grant is not one that is to be served
  have idle : (∀ d ∈ es, ¬ d.Hands) → ¬ (g.isDeleting = false ∧ hasFinalizer g = true) →
      False := by
    intro nothing other
    cases said with
    | handed mem ready =>
      exact nothing _ (mem_course mem fun quiet => quiet.not_hands (.inr ready)) (.inr ready)
    | left kept claimed _ _ _ =>
      exact other ⟨by simp [Grant.isDeleting, kept], by simpa [hasFinalizer] using claimed⟩
  cases course with
  | homeless _ =>
    exact absurd said (not_saysReady_of_failed (by simp [Pass.endDeeds, Deed.Silent]))
  | released _ deleted _ => exact (idle (by simp) (by simp [deleted])).elim
  | releasing _ deleted _ rest =>
    exact (idle (fun d hd => rest.not_hands hd) (by simp [deleted])).elim
  | claiming _ _ unclaimed out =>
    refine (idle ?_ (by simp [unclaimed])).elim
    intro d hd
    obtain rfl := List.mem_singleton.1 hd
    rintro (applied | written)
    · cases applied
    · exact written
  | serving hns _ _ rest => exact ⟨_, es, hns, rest, rfl⟩

/-- Telling that the artifact was made leaves what stands at its place. -/
lemma Provisioned.spares {p : Provider} {result : ProvisionResult} {look : List Deed} {x : Place}
    (h : Provisioned now g ns p result look ds r) (reads : ∀ d ∈ look, d.Reads)
    (other : ∀ key, x ≠ .grant key) : ∀ d ∈ ds, d.Spares x := by
  intro d hd
  rcases h.mem hd with quiet | ⟨out, rfl⟩
  · exact (quiet_provisioned reads quiet).spares
  · exact .inr fun same => other _ (Option.some.inj same).symm

/-- A pass that says that a grant is ready leaves the artifact as it was made: a copied key is
there, and an ExternalSecret is synced if it was so before. -/
lemma SaysReady.artifact (runs : (reconcileGrant now g).run.Runs ds r)
    (allowed : o.Allows now ds o') (said : SaysReady g ds r) :
    ∃ ns p s, g.metadata.ns = some ns ∧ o.providers[g.spec.provider]? = some p ∧
      Strategy.ofProvider? p = some s ∧
      (s = .directCopy → o'.KeyAt (g.artifactKey ns)) ∧
      (s = .delegatedSync → (∃ object, o'.others[g.artifactKey ns]? = some object) ∧
        (o'.Synced (g.artifactKey ns) ↔ o.Synced (g.artifactKey ns))) := by
  obtain ⟨ns, es, hns, serving, rfl⟩ := said.serving runs
  obtain ⟨p, labels, s, result, ds₁, ds₂, look, gate, attempt, reads, report, rfl⟩ :=
    serving.made_of_saysReady said
  obtain ⟨o₂, served, last⟩ := Objects.allows_append.1 allowed
  obtain rfl := Objects.allows_of_quiet quiet_endDeeds last
  obtain ⟨found, -, rest⟩ := served
  obtain ⟨o₁, tried, told⟩ := Objects.allows_append.1 rest
  refine ⟨ns, p, s, hns, found, (Grant.gate_ok_iff.1 gate).2.2, ?_, ?_⟩
  · rintro rfl
    have same : o'.secrets[g.artifactKey ns]? = o₁.secrets[g.artifactKey ns]? :=
      Objects.content_kept (x := .secret (g.artifactKey ns))
        (Provisioned.spares report reads (by simp)) told
    have held := DirectCopy.Attempt.keyAt attempt tried
    rwa [Objects.KeyAt, ← same] at held
  · rintro rfl
    have same : o'.others[g.artifactKey ns]? = o₁.others[g.artifactKey ns]? :=
      Objects.content_kept (x := .other (g.artifactKey ns))
        (Provisioned.spares report reads (by simp)) told
    obtain ⟨there, synced⟩ := DelegatedSync.Attempt.synced attempt tried
    rw [← same] at there
    rw [Objects.Synced, ← same] at synced
    exact ⟨there, synced⟩

/-- A pass that ends well and has made the artifact says so. -/
lemma saysReady_of_finds {p : Provider} {result : ProvisionResult} {a : Action}
    (hns : g.metadata.ns = some ns) (kept : g.metadata.deletionTimestamp = none)
    (claimed : cleanupFinalizer ∈ g.finalizers)
    (runs : (reconcileGrant now g).run.Runs ds (.ok a))
    (made : Finds now g ns ds (.provisioned p result)) : SaysReady g ds (.ok a) := by
  obtain ⟨f, finds, -, handed, -⟩ := outcome_of_pass hns (by simp [Grant.isDeleting, kept])
    (by simpa [hasFinalizer] using claimed) runs
  obtain rfl := finds.unique made
  exact .left kept claimed rfl handed (Finding.state_status _ now g)

end GrantPass

/-- Let a pass say that a grant is ready, whatever the cluster holds and whichever requests fail,
and let the health of the artifact be looked at afterwards by the strategy of the provider.  This
changes nothing, and as long as no request fails it ends with a report.  A key that was copied is
reported to be healthy, because the Secret is there and holds it.  An ExternalSecret is reported to
be healthy if and only if it is synced, and this it was already before the pass. -/
theorem ready_rests_on_artifact {now later : Timestamp} {g : Grant} {ds : List Deed}
    {r : Except ReconcileFailure Action} {o o' : Objects}
    (runs : (reconcileGrant now g).run.Runs ds r) (allowed : o.Allows now ds o')
    (said : GrantPass.SaysReady g ds r) :
    ∃ ns p s, g.metadata.ns = some ns ∧ o.providers[g.spec.provider]? = some p ∧
      Strategy.ofProvider? p = some s ∧
      (∃ es h, (s.healthCheck later p g).run.Runs es h ∧ o'.Allows later es o' ∧
        Undisturbed es) ∧
      ∀ es h o₁, (s.healthCheck later p g).run.Runs es h → o'.Allows later es o₁ →
        Undisturbed es → o₁ = o' ∧ ∃ report, h = .ok report ∧
          (s = .directCopy → report.healthy = true ∧ o'.KeyAt (g.artifactKey ns)) ∧
          (s = .delegatedSync →
            (report.healthy = true ↔ o'.Synced (g.artifactKey ns)) ∧
              (o'.Synced (g.artifactKey ns) ↔ o.Synced (g.artifactKey ns))) := by
  obtain ⟨ns, p, s, hns, found, strategy, copied, delegated⟩ := said.artifact runs allowed
  refine ⟨ns, p, s, hns, found, strategy, ?_, fun es h o₁ looked allowed' undisturbed => ?_⟩
  · obtain ⟨es, h, o₁, looked, allowed', undisturbed⟩ :=
      o'.exists_undisturbed later (s.healthCheck later p g).run
    obtain rfl := Strategy.unchanged_by_healthCheck hns looked allowed'
    exact ⟨es, h, looked, allowed', undisturbed⟩
  · refine ⟨Strategy.unchanged_by_healthCheck hns looked allowed', ?_⟩
    cases s with
    | directCopy =>
      have held := copied rfl
      obtain ⟨report, rfl, healthy⟩ :=
        DirectCopy.healthy_of_keyAt hns held looked allowed' undisturbed
      exact ⟨report, rfl, fun _ => ⟨healthy, held⟩, by simp⟩
    | delegatedSync =>
      obtain ⟨there, synced⟩ := delegated rfl
      obtain ⟨report, rfl, healthy⟩ :=
        DelegatedSync.healthy_iff_synced hns there looked allowed' undisturbed
      exact ⟨report, rfl, by simp, fun _ => ⟨healthy, synced⟩⟩

/-- The pass over the grant of the small cluster makes it ready, and its artifact is healthy. -/
theorem sample_ready_rests_on_artifact :
    ∃ ds r o', (reconcileGrant .epoch Sample.grant).run.Runs ds r ∧
      Sample.objects.Allows .epoch ds o' ∧ GrantPass.SaysReady Sample.grant ds r ∧
      ∃ es report,
        (Strategy.healthCheck .directCopy Sample.hour Sample.provider Sample.grant).run.Runs es
          (.ok report) ∧
        Undisturbed es ∧ report.healthy = true := by
  obtain ⟨ds, a, o', result, runs, allowed, -, made⟩ :=
    GrantPass.made_of_cleared Sample.at_home Sample.cleared Sample.holdsKey .epoch
  have said := GrantPass.saysReady_of_finds Sample.at_home Sample.cleared.kept
    Sample.cleared.claimed runs made
  obtain ⟨ns, p, s, hns, found, strategy, ⟨es, h, looked, allowed', undisturbed⟩, healthy⟩ :=
    ready_rests_on_artifact runs allowed said
  obtain rfl := Option.some.inj (found.symm.trans Sample.cleared.found)
  obtain rfl : Strategy.directCopy = s := Option.some.inj strategy
  obtain ⟨-, report, rfl, copied, -⟩ := healthy es h o' looked allowed' undisturbed
  exact ⟨ds, _, o', runs, allowed, said, es, report, looked, undisturbed, (copied rfl).1⟩

/-- With an external store the first pass makes the grant ready, while the health check finds that
nothing was copied yet. -/
theorem ready_without_sync :
    ∃ ds o' t, (reconcileGrant .epoch Sample.grant).run.Runs ds (.ok .awaitChange) ∧
      (Sample.objects.withProvider "openai" (Sample.authenticated Sample.moved)).Allows .epoch ds
        o' ∧
      Undisturbed ds ∧ o'.grants[Sample.grant.key]? = some { Sample.grant with status := some t } ∧
      t.IsReady ∧
      ∃ es report o₁, (Strategy.healthCheck .delegatedSync .epoch
          (Sample.authenticated Sample.moved) Sample.grant).run.Runs es (.ok report) ∧
        o'.Allows .epoch es o₁ ∧ Undisturbed es ∧ report.healthy = false := by
  have kept : Sample.grant.isDeleting = false := rfl
  have claimed : GrantPass.hasFinalizer Sample.grant = true := by decide
  obtain ⟨ds, o', result, -, runs, allowed, undisturbed, made, -⟩ :=
    Sample.pass_authenticated (a := Sample.moved) rfl rfl rfl rfl
  obtain ⟨f, finds, -, -, stored⟩ := GrantPass.outcome_of_pass Sample.at_home kept claimed runs
  obtain rfl := finds.unique made
  have said := GrantPass.saysReady_of_finds Sample.at_home Sample.cleared.kept
    Sample.cleared.claimed runs made
  obtain ⟨ns, p, s, hns, found, strategy, -, delegated⟩ := said.artifact runs allowed
  obtain rfl := Option.some.inj (hns.symm.trans Sample.at_home)
  obtain rfl : Sample.authenticated Sample.moved = p := by
    simpa [Objects.withProvider, Sample.grant] using found
  obtain rfl : Strategy.delegatedSync = s := Option.some.inj strategy
  obtain ⟨there, synced⟩ := delegated rfl
  obtain ⟨es, h, o₁, looked, allowed', undisturbed'⟩ := o'.exists_undisturbed .epoch
    (Strategy.healthCheck .delegatedSync .epoch (Sample.authenticated Sample.moved)
      Sample.grant).run
  obtain ⟨report, rfl, healthy⟩ := DelegatedSync.healthy_iff_synced Sample.at_home there looked
    allowed' undisturbed'
  -- no ExternalSecret stood there before, so that nothing was said of it
  have unsynced : ¬ (Sample.objects.withProvider "openai"
      (Sample.authenticated Sample.moved)).Synced (Sample.grant.artifactKey "team") := by
    rintro ⟨object, before, -⟩
    simp [Objects.withProvider, Sample.objects] at before
  exact ⟨ds, o', _, runs, allowed, undisturbed,
    stored _ _ allowed (by simp [Objects.withProvider, Sample.objects]),
    Finding.state_status _ _ _, es, report, o₁, looked, allowed', undisturbed',
    by simpa using fun yes => unsynced (synced.1 (healthy.1 yes))⟩

end CredentialOperator
