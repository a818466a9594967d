import CredentialOperator.Proofs.Http.Messages
import CredentialOperator.Proofs.Http.Talks
import CredentialOperator.Proofs.Reconcile.Leftovers
import Mathlib.Data.List.Basic

/-!
# Releasing a grant

A grant that is being deleted is held by the operator's finalizer until its artifact was removed.
In every pass over it the finalizer is removed last, behind the removal of the artifact; if the
artifact cannot be removed, or it cannot be told how it was made, the pass fails and the grant is
not written (`GrantPass.Releasing.removal_before`, `GrantPass.Releasing.unwritten_of_fails`).

What a failed pass has done does not stand in the way of a later one.  It leaves the grant as it
is, and an artifact that it removed counts as removed when it is found missing
(`Strategy.removal_carriedBy_iff`).  So however many passes have failed, the first one in which
no request fails takes the finalizer off the grant (`released_after_cleanup`).
-/

namespace CredentialOperator

/-! ## Deeds that concern the release -/

namespace Deed

/-- The deed is a request that writes a grant. -/
def WritesGrant : Deed → Prop
  | .request (.patchGrantStatus _ _) _ => True
  | .request (.addFinalizer _ _) _ => True
  | .request (.removeFinalizer _ _) _ => True
  | _ => False

end Deed

namespace Strategy

variable {s : Strategy} {key : ObjectKey} {out : Except ApiFailure Bool}

lemma not_writesGrant_removal : ¬ (s.removal key out).WritesGrant := by
  cases s <;> exact id

lemma removal_fails : (s.removal key out).Fails ↔ ∃ e, out = .error e := by
  cases s <;> cases out <;> simp [removal, Deed.Fails]

/-- Where an artifact stands on the server. -/
def path (s : Strategy) (key : ObjectKey) : String :=
  match s with
  | .directCopy => Paths.secret key
  | .delegatedSync => Paths.dynamic externalSecretKind key

/-- A reply tells that an artifact is gone. -/
def ToldGone (s : Strategy) (reply : HttpReply) : Prop :=
  match s with
  | .directCopy => reply.TellsGone Secret.ofJson?
  | .delegatedSync => reply.TellsGone DynamicObject.ofJson?

/-- Removing an artifact takes one message, and comes off exactly if the server has removed the
artifact or says by its code that it is not there. -/
lemma removal_carriedBy_iff {talk : Talk} {found : Bool} :
    (s.removal key (.ok found)).CarriedBy talk ↔
      key.name.isEmpty = false ∧ ∃ m reply, (HttpMessage.removing (s.path key)).sent? = some m ∧
        talk = [(m, reply)] ∧ s.ToldGone reply ∧ found = !reply.isRefusal := by
  cases s with
  | directCopy => exact Conversation.talks_delete
  | delegatedSync => exact Conversation.talks_delete

end Strategy

/-! ## A single pass -/

namespace GrantPass

variable {g : Grant} {ns : String} {ds : List Deed} {r : Except ReconcileFailure Action}

/-- The deed that takes the finalizer off a grant. -/
abbrev unfinalized (g : Grant) (ns : String) (out : Except ApiFailure Unit) : Deed :=
  .request (.removeFinalizer ⟨ns, g.name⟩ cleanupFinalizer) out

/-- Some deeds have cleaned up after a grant: its provider was looked up, and if there is a
strategy for it, the artifact was removed or found missing. -/
def CleanedUp (g : Grant) (ns : String) (ds : List Deed) : Prop :=
  ∃ provider, .request (.getProvider g.spec.provider) (.ok provider) ∈ ds ∧
    ∀ s, cleanupStrategy? provider = some s → ∃ found, s.removal (g.artifactKey ns) (.ok found) ∈ ds

/-- A release fails before the grant is written, or it cleans up and then asks for the finalizer
to be removed, which is all that it writes to the grant. -/
lemma Releasing.ends (h : Releasing g ns ds r) :
    ((∃ e, r = .error e) ∧ (∃ d ∈ ds, d.Fails) ∧ ∀ d ∈ ds, ¬ d.WritesGrant) ∨
      ∃ before out, ds = before ++ [unfinalized g ns out] ∧ r = lastly out .awaitChange ∧
        CleanedUp g ns before ∧ Undisturbed before ∧ ∀ d ∈ before, ¬ d.WritesGrant := by
  cases h with
  | providerUnread e =>
    refine .inl ⟨⟨_, rfl⟩, ⟨_, List.mem_singleton.2 rfl, trivial⟩, ?_⟩
    simp [Deed.WritesGrant]
  | @unremoved _ s hs context e =>
    refine .inl ⟨⟨_, rfl⟩, ⟨s.removal (g.artifactKey ns) (.error e), by simp,
      Strategy.removal_fails.2 ⟨e, rfl⟩⟩, ?_⟩
    simp only [List.mem_cons, List.not_mem_nil, or_false]
    rintro d (rfl | rfl | rfl)
    · exact id
    · exact Strategy.not_writesGrant_removal
    · exact id
  | @unserved p out hs =>
    refine .inr ⟨[.request (.getProvider g.spec.provider) (.ok (some p))], out, rfl, rfl,
      ?_, ?_, ?_⟩
    · refine ⟨some p, List.mem_singleton.2 rfl, ?_⟩
      intro s chosen
      rw [cleanupStrategy?, hs] at chosen
      cases chosen
    · exact undisturbed_cons.2 ⟨id, undisturbed_nil⟩
    · simp [Deed.WritesGrant]
  | @removed provider s hs found out =>
    refine .inr ⟨[.request (.getProvider g.spec.provider) (.ok provider),
      s.removal (g.artifactKey ns) (.ok found), .publish (removedEvent g ns)], out, rfl, rfl,
      ?_, ?_, ?_⟩
    · refine ⟨provider, by simp, ?_⟩
      intro s' chosen
      obtain rfl := Option.some.inj (hs.symm.trans chosen)
      exact ⟨found, by simp⟩
    · refine undisturbed_cons.2 ⟨id, undisturbed_cons.2 ⟨?_, by simp⟩⟩
      simp [Strategy.removal_fails]
    · simp only [List.mem_cons, List.not_mem_nil, or_false]
      rintro d (rfl | rfl | rfl)
      · exact id
      · exact Strategy.not_writesGrant_removal
      · exact id

lemma not_writesGrant_endDeeds : ∀ d ∈ Pass.endDeeds .grants r, ¬ d.WritesGrant := by
  cases r <;> simp [Pass.endDeeds, Deed.WritesGrant]

lemma undisturbed_endDeeds : Undisturbed (Pass.endDeeds .grants r) := by
  cases r <;> simp [Pass.endDeeds]

end GrantPass

/-- The grant belongs to a place and is being deleted, but is held by the operator's
finalizer. -/
structure Grant.Leaving (g : Grant) (key : ObjectKey) : Prop where
  ns : g.metadata.ns = some key.ns
  name : g.name = key.name
  deleted : g.metadata.deletionTimestamp.isSome = true
  claimed : cleanupFinalizer ∈ g.finalizers

namespace Grant.Leaving

variable {g : Grant} {key : ObjectKey} {now : Timestamp} {ds : List Deed}
  {r : Except ReconcileFailure Action}

/-- What a pass over a grant does that is leaving: it fails before the grant is written, or it
cleans up and then asks for the finalizer to be removed. -/
lemma ends (h : g.Leaving key) (runs : (reconcileGrant now g).run.Runs ds r) :
    ((∃ e, r = .error e) ∧ (∃ d ∈ ds, d.Fails) ∧ ∀ d ∈ ds, ¬ d.WritesGrant) ∨
      ∃ before out after,
        ds = before ++ .request (.removeFinalizer key cleanupFinalizer) out :: after ∧
        r = GrantPass.lastly out .awaitChange ∧ GrantPass.CleanedUp g key.ns before ∧
        Undisturbed (before ++ after) ∧ ∀ d ∈ before ++ after, ¬ d.WritesGrant := by
  obtain ⟨es, course, rfl⟩ := GrantPass.course_of_runs runs
  have releasing := course.releasing_of_deleted h.ns h.deleted
    (by simpa [GrantPass.hasFinalizer] using h.claimed)
  have same : (⟨key.ns, g.name⟩ : ObjectKey) = key := by rw [h.name]
  rcases releasing.ends with ⟨failed, ⟨d, hd, fails⟩, unwritten⟩ |
    ⟨before, out, rfl, rfl, cleaned, undisturbed, unwritten⟩
  · refine .inl ⟨failed, ⟨d, by simp [hd], fails⟩, ?_⟩
    intro d hd
    rcases List.mem_append.1 hd with hd | hd
    · exact unwritten d hd
    · exact GrantPass.not_writesGrant_endDeeds d hd
  · refine .inr ⟨before, out, Pass.endDeeds .grants (GrantPass.lastly out .awaitChange), ?_, rfl,
      cleaned, undisturbed_append.2 ⟨undisturbed, GrantPass.undisturbed_endDeeds⟩, ?_⟩
    · simp [GrantPass.unfinalized, same]
    · intro d hd
      rcases List.mem_append.1 hd with hd | hd
      · exact unwritten d hd
      · exact GrantPass.not_writesGrant_endDeeds d hd

end Grant.Leaving

/-! ## Pass after pass -/

namespace Objects

variable {now : Timestamp} {o o' : Objects} {ds : List Deed}

lemma grants_answer {r : Request} {out : r.Outcome} (h : ¬ (Deed.request r out).WritesGrant) :
    (o.answer now r).2.grants = o.grants := by
  cases r <;> first | rfl | exact absurd trivial h

/-- Grants change only by requests that write grants and are carried out. -/
lemma grants_of_allows (h : ∀ d ∈ ds, d.WritesGrant → d.Fails) (allowed : o.Allows now ds o') :
    o'.grants = o.grants := by
  induction ds generalizing o with
  | nil =>
    obtain rfl := allowed
    rfl
  | cons d ds ih =>
    have rest : ∀ d ∈ ds, d.WritesGrant → d.Fails := fun e he => h e (by simp [he])
    match d, allowed with
    | .request r (.ok a), allowed =>
      have quiet : ¬ (Deed.request r (.ok a)).WritesGrant := h _ (by simp)
      rw [ih rest allowed.2, grants_answer quiet]
    | .request r (.error e), allowed => exact ih rest allowed
    | .publish e, allowed => exact ih rest allowed
    | .measure m, allowed => exact ih rest allowed

end Objects

/-- How a cluster can change while the release of the grant at a place is tried again and again:
passes over it fail, and between them anything may change except the grant. -/
inductive Retries (key : ObjectKey) : Objects → Objects → Prop where
  | start (o : Objects) : Retries key o o
  | failed {o₀ o o' : Objects} {now : Timestamp} {g : Grant} {ds : List Deed}
      {e : ReconcileFailure} (before : Retries key o₀ o)
      (pass : PassOver key now o g ds (.error e) o') : Retries key o₀ o'
  | meanwhile {o₀ o o' : Objects} (before : Retries key o₀ o)
      (same : o'.grants[key]? = o.grants[key]?) : Retries key o₀ o'

section

variable {key : ObjectKey} {now : Timestamp} {o₀ o o' : Objects} {g : Grant} {ds : List Deed}
  {r : Except ReconcileFailure Action}

/-- A pass that fails leaves a grant that is leaving as it is. -/
lemma PassOver.kept_of_failed {e : ReconcileFailure} (pass : PassOver key now o g ds (.error e) o')
    (leaving : g.Leaving key) : o'.grants[key]? = some g := by
  have unwritten : ∀ d ∈ ds, d.WritesGrant → d.Fails := by
    rcases leaving.ends pass.runs with ⟨-, -, unwritten⟩ |
      ⟨before, out, after, rfl, ended, -, -, unwritten⟩
    · exact fun d hd writes => absurd writes (unwritten d hd)
    · intro d hd writes
      rcases List.mem_append.1 hd with hd | hd
      · exact absurd writes (unwritten d (by simp [hd]))
      · rcases List.mem_cons.1 hd with rfl | hd
        -- the pass failed, so the finalizer was not removed
        · cases out with
          | ok u => cases ended
          | error e => exact Deed.fails_error
        · exact absurd writes (unwritten d (by simp [hd]))
  rw [Objects.grants_of_allows unwritten pass.allowed, pass.stored]

/-- However many passes have failed, the grant is as it was. -/
lemma Retries.kept (h : Retries key o₀ o) (leaving : g.Leaving key)
    (stored : o₀.grants[key]? = some g) : o.grants[key]? = some g := by
  induction h with
  | start => exact stored
  | failed _ pass kept =>
    obtain rfl := Option.some.inj (pass.stored.symm.trans kept)
    exact pass.kept_of_failed leaving
  | meanwhile _ same kept => rw [same, kept]

/-- A pass in which no request fails takes the finalizer off a grant that is leaving, and leaves
nothing that it had to remove. -/
lemma PassOver.released_of_undisturbed (pass : PassOver key now o g ds r o')
    (leaving : g.Leaving key) (undisturbed : Undisturbed ds) :
    r = .ok .awaitChange ∧
      o'.grants[key]? = some { g with
        metadata.finalizers := some (g.finalizers.filter (· ≠ cleanupFinalizer)) } ∧
      ∀ s, o.calledFor g = some s → ¬ o'.Holds (s, ⟨key.ns, g.spec.secretName⟩) := by
  rcases leaving.ends pass.runs with ⟨-, ⟨d, hd, fails⟩, -⟩ |
    ⟨before, out, after, rfl, rfl, -, -, unwritten⟩
  · exact absurd fails (undisturbed d hd)
  cases out with
  | error e =>
    have rest := (undisturbed_append.1 undisturbed).2
    exact absurd Deed.fails_error (undisturbed_cons.1 rest).1
  | ok u =>
    refine ⟨rfl, ?_, ?_⟩
    · obtain ⟨o₁, allowed₁, allowed₂⟩ := Objects.allows_append.1 pass.allowed
      have kept₁ : o₁.grants = o.grants := Objects.grants_of_allows
        (fun d hd writes => absurd writes (unwritten d (by simp [hd]))) allowed₁
      have kept₂ := Objects.grants_of_allows
        (fun d hd writes => absurd writes (unwritten d (by simp [hd]))) allowed₂.2
      obtain ⟨fs, listed⟩ : ∃ fs, g.metadata.finalizers = some fs := by
        cases listed : g.metadata.finalizers with
        | none => simpa [Grant.finalizers, listed] using leaving.claimed
        | some fs => exact ⟨fs, rfl⟩
      rw [kept₂]
      simp [Objects.answer, Objects.modifyGrant, kept₁, pass.stored, Objects.withoutFinalizer,
        Grant.finalizers, listed]
    · intro s called held
      have released : Releases key
          (before ++ .request (.removeFinalizer key cleanupFinalizer) (.ok ()) :: after) := by
        simp [Releases]
      exact ((pass.holds_of_release released).1 held).2 s called rfl

end

/-- A pass over a grant that is leaving removes the finalizer only behind the removal of the
artifact, as the strategy of the provider has it if there is one, and it fails without writing
the grant if any request before fails.  The artifact counts as removed exactly if the server,
asked by the one message that is sent, has removed it or does not know it.  However many passes
have failed, and whatever else has changed in between, the first pass in which no request fails
takes the operator's finalizer off the grant, which is otherwise as it was. -/
theorem released_after_cleanup {g : Grant} {key : ObjectKey} (leaving : g.Leaving key) :
    (∀ now ds r, (reconcileGrant now g).run.Runs ds r →
      (∀ before k f out after, ds = before ++ .request (.removeFinalizer k f) out :: after →
        k = key ∧ f = cleanupFinalizer ∧
          ∃ provider, .request (.getProvider g.spec.provider) (.ok provider) ∈ before ∧
            ∀ s, GrantPass.cleanupStrategy? provider = some s →
              ∃ found, s.removal ⟨key.ns, g.spec.secretName⟩ (.ok found) ∈ before) ∧
      ((∃ d ∈ ds, d.Fails ∧ ¬ d.WritesGrant) →
        (∃ e, r = .error e) ∧ ∀ d ∈ ds, ¬ d.WritesGrant)) ∧
    (∀ (s : Strategy) place,
      (∀ found talk, (s.removal place (.ok found)).CarriedBy talk ↔
        place.name.isEmpty = false ∧
          ∃ m reply, (HttpMessage.removing (s.path place)).sent? = some m ∧
            talk = [(m, reply)] ∧ s.ToldGone reply ∧ found = !reply.isRefusal) ∧
      ((s.path place).toList.all Paths.isPathChar = true →
        (HttpMessage.removing (s.path place)).sent? = some (.removing (s.path place)))) ∧
    ∀ o₀ o, o₀.grants[key]? = some g → Retries key o₀ o →
      (∀ now, ∃ ds r o', PassOver key now o g ds r o' ∧ Undisturbed ds) ∧
      ∀ now ds r o', PassOver key now o g ds r o' → Undisturbed ds →
        r = .ok .awaitChange ∧
        o'.grants[key]? = some { g with
          metadata.finalizers := some (g.finalizers.filter (· ≠ cleanupFinalizer)) } ∧
        ∀ s, o.calledFor g = some s → ¬ o'.Holds (s, ⟨key.ns, g.spec.secretName⟩) := by
  refine ⟨fun now ds r runs => ?_, fun _ _ =>
    ⟨fun _ _ => Strategy.removal_carriedBy_iff, HttpMessage.sent?_of_plain (m := .removing _)⟩, ?_⟩
  · rcases leaving.ends runs with ⟨failed, -, unwritten⟩ |
      ⟨before, out, after, rfl, rfl, cleaned, undisturbed, unwritten⟩
    · refine ⟨?_, fun _ => ⟨failed, unwritten⟩⟩
      rintro before k f out after rfl
      exact absurd trivial (unwritten (.request (.removeFinalizer k f) out) (by simp))
    · constructor
      · intro before' k f out' after' split
        -- no deed before or after writes the grant, so the list can be split in one way only
        have unlike : ∀ d ∈ before ++ after, d ≠ .request (.removeFinalizer k f) out' := by
          rintro d hd rfl
          exact unwritten _ hd trivial
        obtain ⟨rfl, same, -⟩ := (List.append_cons_inj_of_notMem
          (fun mem => unlike _ (by simp [mem]) rfl)
          (fun mem => unlike _ (by simp [mem]) rfl)).1 split
        cases same
        exact ⟨rfl, rfl, cleaned⟩
      · rintro ⟨d, hd, fails, unwriting⟩
        rcases List.mem_append.1 hd with hd | hd
        · exact absurd fails (undisturbed d (by simp [hd]))
        · rcases List.mem_cons.1 hd with rfl | hd
          · exact absurd trivial unwriting
          · exact absurd fails (undisturbed d (by simp [hd]))
  · intro o₀ o stored retries
    have stored := retries.kept leaving stored
    refine ⟨fun now => ?_, fun now ds r o' pass => pass.released_of_undisturbed leaving⟩
    obtain ⟨ds, r, o', runs, allowed, undisturbed⟩ :=
      o.exists_undisturbed now (reconcileGrant now g).run
    exact ⟨ds, r, o', ⟨stored, leaving.ns, leaving.name, runs, allowed⟩, undisturbed⟩

namespace Sample

/-- The grant of the small cluster when its deletion was asked for. -/
def leaving : Grant := { grant with metadata.deletionTimestamp := some .epoch }

/-- The small cluster with the artifact of the grant, whose deletion was asked for. -/
def departing : Objects where
  providers := objects.providers
  namespaces := objects.namespaces
  grants := (∅ : KeyMap Grant).insert grant.key leaving
  secrets := objects.secrets.insert ⟨"team", "chat-key"⟩ master

lemma leaving_leaving : leaving.Leaving grant.key where
  ns := rfl
  name := rfl
  deleted := rfl
  claimed := by simp [leaving, grant, Grant.finalizers]

/-- A first pass removes the artifact, but the finalizer cannot be removed. -/
lemma half_released : ∃ ds e o', PassOver grant.key .epoch departing leaving ds (.error e) o' ∧
    departing.Holds (.directCopy, ⟨"team", "chat-key"⟩) ∧
    ¬ o'.Holds (.directCopy, ⟨"team", "chat-key"⟩) := by
  let deeds : List Deed := [
    .request (.getProvider "openai") (.ok (some provider)),
    .request (.deleteSecret ⟨"team", "chat-key"⟩) (.ok true),
    .publish (GrantPass.removedEvent leaving "team"),
    GrantPass.unfinalized leaving "team" (.error .unreadable),
    .measure (.pass .grants false),
    .measure (.passError .grants (ReconcileFailure.ofApi .unreadable).kind)]
  have runs : (reconcileGrant .epoch leaving).run.Runs deeds (.error (.ofApi .unreadable)) :=
    .request _ (.request _ (.publish (.request _ (.measure (.measure (.done _))))))
  refine ⟨deeds, _, { departing with secrets := departing.secrets.erase ⟨"team", "chat-key"⟩ },
    ⟨by simp [departing], rfl, rfl, runs, ?_⟩, ?_, ?_⟩
  · refine ⟨by simp [Objects.answer, departing, objects], ?_, rfl⟩
    simp [Objects.answer, departing]
  · simp [Objects.Holds, departing]
  · simp [Objects.Holds]

end Sample

/-- In the small cluster a pass goes half way and fails, and the next one takes the finalizer off
the grant. -/
theorem sample_released_after_cleanup :
    Sample.leaving.Leaving Sample.grant.key ∧
      ∃ o o', Retries Sample.grant.key Sample.departing o ∧
        Sample.departing.Holds (.directCopy, ⟨"team", "chat-key"⟩) ∧
        ¬ o.Holds (.directCopy, ⟨"team", "chat-key"⟩) ∧
        (∃ ds, PassOver Sample.grant.key .epoch o Sample.leaving ds (.ok .awaitChange) o') ∧
        o'.grants[Sample.grant.key]? =
          some { Sample.leaving with metadata.finalizers := some [] } := by
  obtain ⟨ds, e, o, pass, held, removed⟩ := Sample.half_released
  have retries : Retries Sample.grant.key Sample.departing o := (Retries.start _).failed pass
  obtain ⟨goes, ends⟩ := (released_after_cleanup Sample.leaving_leaving).2.2 _ o pass.stored retries
  obtain ⟨es, r, o', pass', undisturbed⟩ := goes .epoch
  obtain ⟨rfl, stored, -⟩ := ends .epoch es r o' pass' undisturbed
  refine ⟨Sample.leaving_leaving, o, o', retries, held, removed, ⟨es, pass'⟩, ?_⟩
  rw [stored]
  simp [Sample.leaving, Sample.grant, Grant.finalizers]

end CredentialOperator
