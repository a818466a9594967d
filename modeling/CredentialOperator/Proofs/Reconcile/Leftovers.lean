import CredentialOperator.Proofs.Reconcile.Gates

/-!
# What a released grant leaves behind

An artifact is known by the strategy that made it, which tells its kind, and its place.  Over
the life of a grant the artifacts that exist are those that some pass has applied and none has
removed since (`Life.holds_iff`).

The pass that releases a grant removes one artifact at most: the one that the strategy of the
provider, as it stands then, makes under the name that the grant asks for then.  What was
applied for an earlier provider or under an earlier name is left to the owner references, and
exactly this is left behind.
-/

namespace CredentialOperator

/-- An artifact, by the strategy that makes it and its place. -/
abbrev Artifact := Strategy × ObjectKey

namespace Request

/-- The artifact that a request writes. -/
def written? : Request → Option Artifact
  | .applySecret key _ => some (.directCopy, key)
  | .applyDynamic _ key _ => some (.delegatedSync, key)
  | _ => none

/-- The artifact that a request removes. -/
def removed? : Request → Option Artifact
  | .deleteSecret key => some (.directCopy, key)
  | .deleteDynamic _ key => some (.delegatedSync, key)
  | _ => none

lemma applies_eq (r : Request) : r.applies = r.written?.isSome := by
  cases r <;> rfl

end Request

namespace Deed

/-- The deed has written an artifact. -/
def Applies (a : Artifact) : Deed → Prop
  | .request r (.ok _) => r.written? = some a
  | _ => False

/-- The deed has removed an artifact, or found it missing. -/
def Removes (a : Artifact) : Deed → Prop
  | .request r (.ok _) => r.removed? = some a
  | _ => False

lemma Applies.applies {a : Artifact} {d : Deed} (h : d.Applies a) : d.applies = true := by
  cases d with
  | request r o =>
    cases o with
    | ok x =>
      have written : r.written? = some a := h
      simp [Deed.applies, Request.applies_eq, written]
    | error e => exact absurd h id
  | publish e => exact absurd h id
  | measure m => exact absurd h id

lemma not_removes {a : Artifact} {r : Request} {o : r.Outcome} (h : r.removed? = none) :
    ¬ (Deed.request r o).Removes a := by
  cases o <;> simp [Removes, h]

lemma Quiet.not_removes {a : Artifact} {d : Deed} (h : d.Quiet) : ¬ d.Removes a := by
  cases d with
  | request r o =>
    have h : r.reads = true := h
    refine Deed.not_removes ?_
    cases r <;> first | rfl | cases h
  | publish e => exact id
  | measure m => exact id

end Deed

/-- Serving a grant removes nothing. -/
lemma GrantPass.Serving.not_removes {now : Timestamp} {g : Grant} {ns : String} {ds : List Deed}
    {r : Except ReconcileFailure Action} {a : Artifact} {d : Deed} (h : Serving now g ns ds r)
    (hd : d ∈ ds) : ¬ d.Removes a := by
  rcases h.mem hd with quiet | applied | ⟨key, t, o, rfl⟩
  · exact quiet.not_removes
  · cases d with
    | request r o =>
      have applied : r.applies = true := applied
      refine Deed.not_removes ?_
      cases r <;> first | rfl | cases applied
    | publish e => exact id
    | measure m => exact id
  · exact Deed.not_removes rfl

/-- An artifact was applied and has not been removed since. -/
def Kept (a : Artifact) (ds : List Deed) : Prop :=
  ∃ before d after, ds = before ++ d :: after ∧ d.Applies a ∧ ∀ e ∈ after, ¬ e.Removes a

/-- An artifact exists. -/
def Objects.Holds (o : Objects) (a : Artifact) : Prop :=
  match a.1 with
  | .directCopy => a.2 ∈ o.secrets
  | .delegatedSync => a.2 ∈ o.others

section

variable {a : Artifact} {ds es : List Deed} {d : Deed}

lemma not_kept_nil : ¬ Kept a [] := by
  rintro ⟨before, d, after, h, -⟩
  simp at h

lemma kept_cons : Kept a (d :: ds) ↔ Kept a ds ∨ (d.Applies a ∧ ∀ e ∈ ds, ¬ e.Removes a) := by
  constructor
  · rintro ⟨before, e, after, h, applied, none_removed⟩
    cases before with
    | nil =>
      obtain ⟨rfl, rfl⟩ := List.cons.inj h
      exact .inr ⟨applied, none_removed⟩
    | cons c before =>
      obtain ⟨rfl, rfl⟩ := List.cons.inj h
      exact .inl ⟨before, e, after, rfl, applied, none_removed⟩
  · rintro (⟨before, e, after, rfl, applied, none_removed⟩ | ⟨applied, none_removed⟩)
    · exact ⟨d :: before, e, after, rfl, applied, none_removed⟩
    · exact ⟨[], d, ds, rfl, applied, none_removed⟩

end

namespace Objects

variable {now : Timestamp} {o o' : Objects} {ds : List Deed} {a : Artifact}

/-- A request that was carried out leaves an artifact if it wrote it, or if the artifact was
there and the request did not remove it. -/
lemma holds_answer {r : Request} :
    (o.answer now r).2.Holds a ↔ r.written? = some a ∨ (o.Holds a ∧ r.removed? ≠ some a) := by
  obtain ⟨s, key⟩ := a
  cases r with
  | applySecret place secret | applyDynamic _ place object =>
    cases s <;> simp [answer, Holds, Request.written?, Request.removed?, Std.ExtTreeMap.mem_insert]
  | deleteSecret place | deleteDynamic _ place =>
    cases s <;> simp [answer, Holds, Request.written?, Request.removed?, Std.ExtTreeMap.mem_erase,
      and_comm]
  | _ => cases s <;> simp [answer, Holds, Request.written?, Request.removed?, modifyGrant]

/-- After some deeds there are the artifacts that were kept, and those that were there before
and were not removed. -/
lemma holds_of_allows (h : o.Allows now ds o') :
    o'.Holds a ↔ Kept a ds ∨ (o.Holds a ∧ ∀ d ∈ ds, ¬ d.Removes a) := by
  induction ds generalizing o with
  | nil =>
    obtain rfl := h
    simp [not_kept_nil]
  | cons d ds ih =>
    simp only [kept_cons, List.mem_cons, forall_eq_or_imp]
    match d, h with
    | .request r (.ok x), h =>
      rw [ih h.2, holds_answer]
      constructor
      · rintro (h | ⟨h | ⟨h, hd⟩, hds⟩)
        · exact .inl (.inl h)
        · exact .inl (.inr ⟨h, hds⟩)
        · exact .inr ⟨h, hd, hds⟩
      · rintro ((h | ⟨h, hds⟩) | ⟨h, hd, hds⟩)
        · exact .inl h
        · exact .inr ⟨.inl h, hds⟩
        · exact .inr ⟨.inr ⟨h, hd⟩, hds⟩
    | .request r (.error e), h =>
      have h : o.Allows now ds o' := h
      rw [ih h]
      simp [Deed.Applies, Deed.Removes]
    | .publish e, h =>
      have h : o.Allows now ds o' := h
      rw [ih h]
      simp [Deed.Applies, Deed.Removes]
    | .measure m, h =>
      have h : o.Allows now ds o' := h
      rw [ih h]
      simp [Deed.Applies, Deed.Removes]

end Objects

/-! ## The life of a grant -/

/-- A pass at some time over the grant that is stored at a place. -/
structure PassOver (key : ObjectKey) (now : Timestamp) (o : Objects) (g : Grant)
    (ds : List Deed) (r : Except ReconcileFailure Action) (o' : Objects) : Prop where
  stored : o.grants[key]? = some g
  ns : g.metadata.ns = some key.ns
  name : g.name = key.name
  runs : (reconcileGrant now g).run.Runs ds r
  allowed : o.Allows now ds o'

/-- The strategy for cleaning up after a grant, as things stand: that of the provider's type of
authentication, or copying if the provider is gone. -/
def Objects.calledFor (o : Objects) (g : Grant) : Option Strategy :=
  match o.providers[g.spec.provider]? with
  | none => some .directCopy
  | some p =>
    match p.spec.auth.type with
    | .apiKey => some .directCopy
    | .externalSecret => some .delegatedSync
    | .workloadIdentity => none

lemma Objects.calledFor_eq (o : Objects) (g : Grant) :
    o.calledFor g = GrantPass.cleanupStrategy? o.providers[g.spec.provider]? := by
  unfold calledFor GrantPass.cleanupStrategy?
  cases o.providers[g.spec.provider]? with
  | none => rfl
  | some p =>
    simp only [Strategy.ofProvider?]
    cases p.spec.auth.type <;> rfl

/-- The pass has removed the finalizer. -/
def Releases (key : ObjectKey) (ds : List Deed) : Prop :=
  .request (.removeFinalizer key cleanupFinalizer) (.ok ()) ∈ ds

lemma Strategy.removes_removal {s : Strategy} {place : ObjectKey} {found : Bool} {a : Artifact} :
    (s.removal place (.ok found)).Removes a ↔ a = (s, place) := by
  cases s <;> simp [removal, Deed.Removes, Request.removed?, eq_comm]

namespace PassOver

variable {key : ObjectKey} {now : Timestamp} {o o' : Objects} {g : Grant} {ds : List Deed}
  {r : Except ReconcileFailure Action} {a : Artifact}

/-- Only a grant that is being deleted is released. -/
lemma releasing (h : PassOver key now o g ds r o') (released : Releases key ds) :
    ∃ es, GrantPass.Releasing g key.ns es r ∧ Releases key es ∧ o.Allows now es o' := by
  obtain ⟨es, course, allowed, rfl⟩ := GrantPass.course_of_allowed h.runs h.allowed
  have not_quiet : ¬ (Deed.request (.removeFinalizer key cleanupFinalizer) (.ok ())).Quiet := by
    simp [Deed.Quiet, Request.reads]
  have in_course : Releases key es := GrantPass.mem_course released not_quiet
  cases course with
  | homeless _ => exact absurd in_course List.not_mem_nil
  | released _ _ _ => exact absurd in_course List.not_mem_nil
  | claiming _ _ _ _ => cases List.mem_singleton.1 in_course
  | releasing hns _ _ rest =>
    obtain rfl := Option.some.inj (hns.symm.trans h.ns)
    exact ⟨es, rest, in_course, allowed⟩
  | serving _ _ _ rest =>
    rcases rest.mem in_course with quiet | applied | ⟨_, _, _, written⟩
    · exact absurd quiet not_quiet
    · cases applied
    · cases written

/-- The pass that releases a grant removes the artifact that is called for, and no other. -/
lemma holds_of_release (h : PassOver key now o g ds r o') (released : Releases key ds) :
    o'.Holds a ↔ o.Holds a ∧
      ∀ s, o.calledFor g = some s → a ≠ (s, ⟨key.ns, g.spec.secretName⟩) := by
  obtain ⟨es, releasing, released, allowed⟩ := h.releasing released
  -- releasing applies nothing, so only what was there before can be left
  have none_kept : ¬ Kept a es := by
    rintro ⟨before, d, after, rfl, applied, -⟩
    exact releasing.not_hands (by simp) (.inl applied.applies)
  rw [Objects.holds_of_allows allowed, Objects.calledFor_eq]
  simp only [none_kept, false_or]
  refine and_congr_right fun _ => ?_
  cases releasing with
  | providerUnread e => cases List.mem_singleton.1 released
  | @unserved p out hs =>
    have read : o.providers[g.spec.provider]? = some p := allowed.1
    rw [read]
    constructor
    · intro _ s called
      rw [GrantPass.cleanupStrategy?, hs] at called
      cases called
    · intro _ d hd
      simp only [List.mem_cons, List.not_mem_nil, or_false] at hd
      rcases hd with rfl | rfl
      · exact Deed.not_removes rfl
      · exact Deed.not_removes rfl
  | @unremoved _ s hs context e =>
    simp only [Releases, List.mem_cons, List.not_mem_nil, or_false] at released
    rcases released with same | same | same
    · cases same
    · cases s <;> cases same
    · cases same
  | @removed provider s hs found out =>
    have read : o.providers[g.spec.provider]? = provider := allowed.1
    rw [read, hs]
    constructor
    -- the object that is removed is the artifact of this strategy under the present name
    · rintro none_removed _ ⟨⟩ rfl
      exact none_removed (s.removal (g.artifactKey key.ns) (.ok found)) (by simp)
        (Strategy.removes_removal.2 rfl)
    · intro other d hd
      simp only [List.mem_cons, List.not_mem_nil, or_false] at hd
      rcases hd with rfl | rfl | rfl | rfl
      · exact Deed.not_removes rfl
      · exact fun removed => other s rfl (Strategy.removes_removal.1 removed)
      · exact id
      · exact Deed.not_removes rfl

end PassOver

namespace Sample

end Sample

end CredentialOperator
