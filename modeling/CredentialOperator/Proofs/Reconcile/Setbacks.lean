import CredentialOperator.Proofs.Reconcile.Outcomes

/-!
# Setbacks

A pass that refuses a grant, or cannot make its artifact, has something to say about the grant and
takes nothing away: the conditions that say so are entered into the status that the grant has, and
all else that the status tells (the artifact, the dates, the capabilities, the conditions that
others entered) is as before.  `Finding.SetsBack` lists this; `Finding.setsBack_status` shows it of
the status that a pass computes, whatever conditions there were.
-/

namespace CredentialOperator

namespace Condition

/-- The list has been given some conditions, one after the other. -/
inductive EnteredAll : List Condition → List Condition → List Condition → Prop where
  | none (cs : List Condition) : EnteredAll [] cs cs
  | next {new : Condition} {news cs cs₁ cs₂ : List Condition} (first : Entered new cs cs₁)
      (others : EnteredAll news cs₁ cs₂) : EnteredAll (new :: news) cs cs₂

namespace EnteredAll

variable {news cs cs' : List Condition} {type : String}

lemma ofType_eq (h : EnteredAll news cs cs') (other : ∀ new ∈ news, new.type ≠ type) :
    ofType type cs' = ofType type cs := by
  induction h with
  | none => rfl
  | next first _ ih =>
    rw [ih fun new hnew => other new (List.mem_cons_of_mem _ hnew)]
    exact first.ofType_eq (other _ (List.mem_cons_self ..))

lemma eq_foldl (h : EnteredAll news cs cs') : cs' = news.foldl set cs := by
  induction h with
  | none => rfl
  | next first _ ih => rw [ih, first.eq_set, List.foldl_cons]

lemma types_prefix (h : EnteredAll news cs cs') :
    cs.map Condition.type <+: cs'.map Condition.type := by
  induction h with
  | none => exact List.prefix_rfl
  | next first _ ih => exact first.types_prefix.trans ih

end EnteredAll

end Condition

/-- The condition of a grant that something does not hold. -/
def Grant.denial (g : Grant) (now : Timestamp) (type : GrantConditionType) (reason : GrantReason)
    (message : String) : Condition where
  type := type.text
  status := .false
  reason := reason.text
  message
  lastTransitionTime := now
  observedGeneration := g.metadata.generation

/-- Entering a condition that something does not hold. -/
lemma Grant.enter_denial (g : Grant) (now : Timestamp) (type : GrantConditionType)
    (reason : GrantReason) (message : String) (s : GrantStatus) :
    Condition.Entered (g.denial now type reason message) s.conditions
      (g.enter now type false reason message s).conditions :=
  Condition.entered_set s.conditions _

namespace Finding

variable {now : Timestamp} {g : Grant} {f : Finding}

/-- What a finding denies of a grant. -/
def denials (now : Timestamp) (g : Grant) : Finding → List Condition
  | .rejected rej => [g.denial now .ready rej.reason rej.message]
  | .failed f =>
    [g.denial now .credentialProvisioned .provisioningFailed f.message,
      g.denial now .ready .provisioningFailed f.message]
  | .provisioned _ _ => []

/-- A status differs from the one that the grant has by what a finding denies, and by nothing
else; and merging it into that one makes it no other. -/
structure SetsBack (f : Finding) (now : Timestamp) (g : Grant) (t : GrantStatus) : Prop where
  conditions : Condition.EnteredAll (f.denials now g) g.statusOrEmpty.conditions t.conditions
  foreign : ∀ type, (∀ d ∈ f.denials now g, d.type ≠ type) →
    Condition.ofType type t.conditions = Condition.ofType type g.statusOrEmpty.conditions
  order : g.statusOrEmpty.conditions.map Condition.type <+: t.conditions.map Condition.type
  secretRef : t.secretRef = g.statusOrEmpty.secretRef
  lastRotation : t.lastRotation = g.statusOrEmpty.lastRotation
  nextRotation : t.nextRotation = g.statusOrEmpty.nextRotation
  capabilities : t.grantedCapabilities = g.statusOrEmpty.grantedCapabilities
  merged : t.laidOver g.statusOrEmpty = t

/-- Conditions that a finding denies are entered, one after the other. -/
lemma conditions_status (now : Timestamp) (g : Grant) (h : f.isMade = false) :
    Condition.EnteredAll (f.denials now g) g.statusOrEmpty.conditions
      (f.status now g).conditions := by
  cases f with
  | rejected rej => exact .next (g.enter_denial now _ _ _ _) (.none _)
  | failed e =>
    exact .next (g.enter_denial now _ _ _ _) (.next (g.enter_denial now _ _ _ _) (.none _))
  | provisioned p result => cases h

lemma rest_status (now : Timestamp) (g : Grant) (h : f.isMade = false) :
    ∃ cs, cs ≠ [] ∧ f.status now g = { g.statusOrEmpty with conditions := cs } := by
  cases f with
  | rejected rej => exact ⟨_, Condition.set_ne_nil _ _, rfl⟩
  | failed e => exact ⟨_, Condition.set_ne_nil _ _, rfl⟩
  | provisioned p result => cases h

/-- Unless the artifact was made, the status that is computed denies what was found, and keeps
all else. -/
lemma setsBack_status (h : f.isMade = false) : f.SetsBack now g (f.status now g) := by
  obtain ⟨cs, nonempty, same⟩ := rest_status now g h
  have entered := conditions_status now g h
  rw [same] at entered ⊢
  exact {
    conditions := entered
    foreign := fun type other => entered.ofType_eq other
    order := entered.types_prefix
    secretRef := rfl
    lastRotation := rfl
    nextRotation := rfl
    capabilities := rfl
    merged := GrantStatus.laidOver_eq_iff.2 ⟨fun none => absurd none nonempty, id, id, id, id⟩ }

end Finding

namespace GrantPass

variable {now : Timestamp} {g : Grant} {ns : String} {ds : List Deed} {a : Action} {o : Objects}

/-- An undisturbed pass over a grant whose provider is gone refuses it. -/
lemma refused_of_missing (hns : g.metadata.ns = some ns) (kept : g.isDeleting = false)
    (claimed : hasFinalizer g = true) (missing : o.providers[g.spec.provider]? = none)
    (now : Timestamp) :
    ∃ ds a o', (reconcileGrant now g).run.Runs ds (.ok a) ∧ o.Allows now ds o' ∧
      Finds now g ns ds (.rejected (.providerNotFound g.spec.provider)) := by
  obtain ⟨ds, r, o', runs, allowed, undisturbed⟩ :=
    o.exists_undisturbed now (reconcileGrant now g).run
  obtain ⟨es, course, served, rfl⟩ := course_of_allowed runs allowed
  have calm : Undisturbed es := (undisturbed_append.1 undisturbed).1
  have begins : ∀ {out : Except ApiFailure (Option Provider)} {rest : List Deed},
      es = .request (.getProvider g.spec.provider) out :: rest → out = .ok none := by
    rintro out rest rfl
    cases out with
    | error e => exact absurd Deed.fails_error (undisturbed_cons.1 calm).1
    | ok found =>
      have read : o.providers[g.spec.provider]? = found := served.1
      rw [← read, missing]
  cases course.serving_of_claimed hns kept claimed with
  | providerMissing report =>
    obtain rfl := report.ok_of_undisturbed (undisturbed_cons.1 calm).2
    exact ⟨_, _, o', runs, allowed, .missing _⟩
  | providerUnread _ | namespaceUnread _ _ | refused _ _ | failed _ _ _ | provisioned _ _ _ _ =>
    cases begins rfl

end GrantPass

/-- Setbacks keep what was granted.  Let a pass over a grant that is to be kept and has its
finalizer end well, whatever status the grant has before.  Unless the pass has found that the
artifact was made, the status that it hands over or keeps is the one before with what was found
denied: the first condition of the type in question says no, for the reason found, and stands since
when it did so before, if it did; or such a condition was added at the end.  The artifact, the
dates, the capabilities, the conditions of other types and the order of all of them are as before.
A cluster in memory, which puts the status that it is handed in the place of the old one, holds this
status afterwards. -/
theorem setbacks_keep_grants {now : Timestamp} {g : Grant} {ds : List Deed} {a : Action}
    {o o' : Objects} (kept : g.metadata.deletionTimestamp = none)
    (claimed : cleanupFinalizer ∈ g.finalizers)
    (runs : (reconcileGrant now g).run.Runs ds (.ok a)) (allowed : o.Allows now ds o') :
    ∃ ns f t, g.metadata.ns = some ns ∧ GrantPass.Finds now g ns ds f ∧
      statusAfter g.status ds = some t ∧
      (o.grants[g.key]? = some g → o'.grants[g.key]? = some { g with status := some t }) ∧
      (f.isMade = false → f.SetsBack now g t) := by
  have kept : g.isDeleting = false := by simp [Grant.isDeleting, kept]
  have claimed : GrantPass.hasFinalizer g = true := by simpa [GrantPass.hasFinalizer] using claimed
  obtain ⟨ns, hns⟩ := GrantPass.exists_ns runs
  obtain ⟨f, finds, -, handed, left⟩ := GrantPass.outcome_of_pass hns kept claimed runs
  exact ⟨ns, f, f.status now g, hns, finds, handed, left o o' allowed, f.setsBack_status⟩

namespace Sample

/-- The grant of the small cluster, which was ready, with a condition that someone else entered. -/
def settled : Grant :=
  { grant with
    status := some {
      conditions := [
        { type := "Audited", status := .true, reason := "Checked", message := "",
          lastTransitionTime := .epoch },
        { type := "Ready", status := .true, reason := "CredentialReady", message := "",
          lastTransitionTime := .epoch }]
      secretRef := some { kind := "Secret", ns := "team", name := "chat-key" }
      lastRotation := some .epoch } }

end Sample

/-- When the provider of the sample grant has gone, a pass an hour later says that the grant is not
ready any more, and keeps its artifact and the condition of someone else. -/
theorem sample_setbacks_keep_grants :
    Sample.settled.metadata.deletionTimestamp = none ∧
      cleanupFinalizer ∈ Sample.settled.finalizers ∧
      ∃ ds a o' t, (reconcileGrant Sample.hour Sample.settled).run.Runs ds (.ok a) ∧
        Objects.Allows Sample.hour {} ds o' ∧ statusAfter Sample.settled.status ds = some t ∧
        t.conditions = Sample.settled.statusOrEmpty.conditions.take 1 ++
          [Sample.settled.denial Sample.hour .ready .declarationNotFound
            "CredentialProvider openai not found"] ∧
        t.secretRef = Sample.settled.statusOrEmpty.secretRef := by
  have claimed : cleanupFinalizer ∈ Sample.settled.finalizers := by decide
  obtain ⟨ds, a, o', runs, allowed, refused⟩ :=
    GrantPass.refused_of_missing (o := {}) (g := Sample.settled) Sample.at_home rfl (by decide)
      (by simp) Sample.hour
  obtain ⟨ns, f, t, home, finds, handed, -, setsBack⟩ :=
    setbacks_keep_grants rfl claimed runs allowed
  obtain rfl := Option.some.inj (home.symm.trans Sample.at_home)
  obtain rfl := finds.unique refused
  have after := setsBack rfl
  refine ⟨rfl, claimed, ds, a, o', t, runs, allowed, handed, ?_, after.secretRef⟩
  rw [after.conditions.eq_foldl]
  decide

end CredentialOperator
