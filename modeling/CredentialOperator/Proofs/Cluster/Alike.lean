import CredentialOperator.Proofs.Cluster.Effects

/-!
# Clusters that differ in the bytes of Secrets

Two clusters are alike if they hold the same objects, but for the bytes that the Secrets hold under
their keys.  Two programs are alike if they do the same as long as they are answered alike, but
for the bytes of the API key in the Secrets that they apply; a program is discreet if it is alike
itself, so that it tells nothing else of the bytes that it reads.

`Program.Alike.lockstep` compares the runs of alike programs over alike clusters in which the same
requests fail: the deeds are alike one by one, and so are the clusters afterwards.  Such a second
run always exists (`Program.Alike.partner`).  That a program is discreet is shown along the
program, with the lemmas on sequences below.
-/

namespace CredentialOperator

/-! ## What is alike -/

/-- Two Secrets differ at most in the bytes that they hold. -/
structure Secret.Alike (s t : Secret) : Prop where
  metadata : s.metadata = t.metadata
  immutable : s.immutable = t.immutable
  stringData : s.stringData = t.stringData
  type : s.type = t.type
  data : s.data.isSome = t.data.isSome
  holds : ∀ key, s.holds key = t.holds key

/-- Two Secrets differ at most in the bytes under one key. -/
structure Secret.AlikeBut (key : String) (s t : Secret) : Prop extends Secret.Alike s t where
  others : ∀ k, k ≠ key → s.get? k = t.get? k

/-- Two Secrets, either of which may be missing, are alike. -/
abbrev Secret.AlikeIfAny : Option Secret → Option Secret → Prop := Option.Rel Secret.Alike

/-- Two clusters hold the same objects, but for the bytes of Secrets. -/
structure Objects.Alike (o o' : Objects) : Prop where
  providers : o.providers = o'.providers
  namespaces : o.namespaces = o'.namespaces
  grants : o.grants = o'.grants
  others : o.others = o'.others
  secrets : ∀ key : ObjectKey, Secret.AlikeIfAny o.secrets[key]? o'.secrets[key]?

namespace Request

/-- Whether a request is to apply a Secret. -/
def appliesSecret : Request → Bool
  | .applySecret _ _ => true
  | _ => false

/-- Whether a request is answered with a Secret. -/
def readsSecret : Request → Bool
  | .checkSecret _ | .getSecret _ => true
  | _ => false

/-- Whether a request neither carries the bytes of a Secret nor is answered with them. -/
def isPlain (r : Request) : Bool := !r.appliesSecret && !r.readsSecret

/-- Two answers to a request differ at most in the bytes of a Secret. -/
def AnswerAlike (r : Request) (a b : r.Answer) : Prop :=
  match r, a, b with
  | .checkSecret _, a, b => Secret.AlikeIfAny a b
  | .getSecret _, a, b => Secret.AlikeIfAny a b
  | _, a, b => a = b

/-- Two outcomes of a request are the same failure or answers that are alike. -/
inductive OutcomeAlike (r : Request) : r.Outcome → r.Outcome → Prop where
  | ok {a b : r.Answer} (h : r.AnswerAlike a b) : OutcomeAlike r (.ok a) (.ok b)
  | error (e : ApiFailure) : OutcomeAlike r (.error e) (.error e)

lemma isPlain_iff {r : Request} :
    r.isPlain = true ↔ r.appliesSecret = false ∧ r.readsSecret = false := by
  simp [isPlain]

lemma eq_of_answerAlike {r : Request} {a b : r.Answer} (blind : r.readsSecret = false)
    (h : r.AnswerAlike a b) : a = b := by
  cases r <;> first | exact h | cases blind

lemma eq_of_outcomeAlike {r : Request} {a b : r.Outcome} (blind : r.readsSecret = false)
    (h : r.OutcomeAlike a b) : a = b := by
  cases h with
  | ok answers => rw [eq_of_answerAlike blind answers]
  | error e => rfl

end Request

/-- Two deeds are the same, but for the bytes of Secrets that are read and for those of the API key
in a Secret that is applied. -/
inductive Deed.Alike : Deed → Deed → Prop where
  | request {r : Request} {out out' : r.Outcome} (h : r.OutcomeAlike out out') :
      Deed.Alike (.request r out) (.request r out')
  | apply {key : ObjectKey} {s t : Secret} (h : s.AlikeBut apiKeyKey t)
      (out : Except ApiFailure Unit) :
      Deed.Alike (.request (.applySecret key s) out) (.request (.applySecret key t) out)
  | publish (e : Event) : Deed.Alike (.publish e) (.publish e)
  | measure (m : Measurement) : Deed.Alike (.measure m) (.measure m)

/-- Two programs do the same as long as they are answered alike, but for what they apply, which is
related by `A`, and end with results that are related by `R`. -/
inductive Program.Alike {α : Type} (A : Secret → Secret → Prop) (R : α → α → Prop) :
    Program α → Program α → Prop where
  | done {a b : α} (h : R a b) : Program.Alike A R (.done a) (.done b)
  | request {r : Request} {next next' : r.Outcome → Program α} (other : r.appliesSecret = false)
      (rest : ∀ out out', r.OutcomeAlike out out' → Program.Alike A R (next out) (next' out')) :
      Program.Alike A R (.request r next) (.request r next')
  | apply {key : ObjectKey} {s t : Secret} {next next' : Except ApiFailure Unit → Program α}
      (h : A s t) (rest : ∀ out, Program.Alike A R (next out) (next' out)) :
      Program.Alike A R (.request (.applySecret key s) next) (.request (.applySecret key t) next')
  | publish {e : Event} {next next' : Program α} (rest : Program.Alike A R next next') :
      Program.Alike A R (.publish e next) (.publish e next')
  | measure {m : Measurement} {next next' : Program α} (rest : Program.Alike A R next next') :
      Program.Alike A R (.measure m next) (.measure m next')

/-- A program tells nothing of the bytes that it reads, but for what `A` relates in the Secrets
that it applies. -/
abbrev Program.Discreet {α : Type} (A : Secret → Secret → Prop) (p : Program α) : Prop :=
  p.Alike A (· = ·) p

/-! ## Alike clusters answer alike -/

namespace Secret

variable {s t : Secret} {old old' : Option Secret}

lemma Alike.refl (s : Secret) : s.Alike s := ⟨rfl, rfl, rfl, rfl, rfl, fun _ => rfl⟩

lemma AlikeBut.refl {key : String} (s : Secret) : s.AlikeBut key s := ⟨.refl s, fun _ _ => rfl⟩

lemma AlikeIfAny.refl : ∀ s : Option Secret, AlikeIfAny s s
  | none => .none
  | some s => .some (.refl s)

lemma AlikeIfAny.isSome_eq (h : AlikeIfAny old old') : old.isSome = old'.isSome := by
  cases h <;> rfl

lemma Alike.stored (h : s.Alike t) (olds : AlikeIfAny old old') (now : Timestamp) :
    (Objects.storedSecret now old s).Alike (Objects.storedSecret now old' t) := by
  have created : (Objects.storedSecret now old s).metadata =
      (Objects.storedSecret now old' t).metadata := by
    cases olds with
    | none => simp [Objects.storedSecret, h.metadata]
    | some h' => simp [Objects.storedSecret, h.metadata, h'.metadata]
  exact ⟨created, h.immutable, h.stringData, h.type, h.data, h.holds⟩

end Secret

namespace Request

lemma AnswerAlike.refl {r : Request} (a : r.Answer) : r.AnswerAlike a a := by
  cases r with
  | checkSecret key => exact Secret.AlikeIfAny.refl a
  | getSecret key => exact Secret.AlikeIfAny.refl a
  | _ => rfl

lemma OutcomeAlike.refl {r : Request} : ∀ out : r.Outcome, r.OutcomeAlike out out
  | .ok a => .ok (.refl a)
  | .error e => .error e

end Request

namespace Objects

variable {o o' : Objects}

lemma Alike.refl (o : Objects) : o.Alike o where
  providers := rfl
  namespaces := rfl
  grants := rfl
  others := rfl
  secrets key := .refl o.secrets[key]?

lemma Alike.modifyGrant (h : o.Alike o') (key : ObjectKey) (change : Grant → Grant) :
    (o.modifyGrant key change).Alike (o'.modifyGrant key change) where
  providers := h.providers
  namespaces := h.namespaces
  grants := congrArg (·.modify key change) h.grants
  others := h.others
  secrets := h.secrets

/-- Applying Secrets that are alike leaves alike clusters. -/
lemma Alike.applied (h : o.Alike o') {s t : Secret} (same : s.Alike t) (now : Timestamp)
    (key : ObjectKey) :
    (o.answer now (.applySecret key s)).2.Alike (o'.answer now (.applySecret key t)).2 where
  providers := h.providers
  namespaces := h.namespaces
  grants := h.grants
  others := h.others
  secrets place := by
    simp only [answer, Std.ExtTreeMap.getElem?_insert]
    split
    · exact .some (same.stored (h.secrets key) now)
    · exact h.secrets place

/-- Alike clusters give alike answers to a request, and are left alike by it. -/
lemma Alike.answer (h : o.Alike o') (now : Timestamp) (r : Request) :
    r.AnswerAlike (o.answer now r).1 (o'.answer now r).1 ∧
      (o.answer now r).2.Alike (o'.answer now r).2 := by
  -- a copy of `h` is taken apart, as most requests leave the clusters as they are
  obtain ⟨providers, namespaces, grants, others, secrets⟩ := id h
  cases r with
  | checkSecret key => exact ⟨secrets key, h⟩
  | getSecret key => exact ⟨secrets key, h⟩
  | applySecret key s => exact ⟨rfl, h.applied (.refl s) now key⟩
  | deleteSecret key =>
    constructor
    · have found : o.secrets[key]?.isSome = o'.secrets[key]?.isSome := (secrets key).isSome_eq
      simpa [Request.AnswerAlike, Objects.answer] using found
    · refine ⟨providers, namespaces, grants, others, fun place => ?_⟩
      simp only [Objects.answer, Std.ExtTreeMap.getElem?_erase]
      split
      · exact .none
      · exact secrets place
  | getProvider name => exact ⟨by simp [Request.AnswerAlike, Objects.answer, providers], h⟩
  | getNamespaceLabels name => exact ⟨by simp [Request.AnswerAlike, Objects.answer, namespaces], h⟩
  | listGrantsOf name => exact ⟨by simp [Request.AnswerAlike, Objects.answer, grants], h⟩
  | listGrants name => exact ⟨by simp [Request.AnswerAlike, Objects.answer, grants], h⟩
  | getDynamic kind key => exact ⟨by simp [Request.AnswerAlike, Objects.answer, others], h⟩
  | patchGrantStatus key status => exact ⟨rfl, h.modifyGrant key _⟩
  | addFinalizer key finalizer => exact ⟨rfl, h.modifyGrant key _⟩
  | removeFinalizer key finalizer => exact ⟨rfl, h.modifyGrant key _⟩
  | patchProviderStatus name status =>
    exact ⟨rfl, by simp [Objects.answer, providers], namespaces, grants, others, secrets⟩
  | applyDynamic kind key object =>
    exact ⟨by simp [Request.AnswerAlike, Objects.answer, others], providers, namespaces, grants,
      by simp [Objects.answer, others], secrets⟩
  | deleteDynamic kind key =>
    exact ⟨by simp [Request.AnswerAlike, Objects.answer, others], providers, namespaces, grants,
      by simp [Objects.answer, others], secrets⟩

end Objects

/-! ## Runs of alike programs -/

namespace Deed

/-- Why the deed failed, if it is a request that did. -/
def failure? : Deed → Option ApiFailure
  | .request _ (.error e) => some e
  | _ => none

/-- Beside a Secret that is applied, one is applied that differs in the API key alone. -/
lemma Alike.applied {d e : Deed} {key : ObjectKey} {s : Secret} {out : Except ApiFailure Unit}
    (alike : d.Alike e) (applies : d = .request (.applySecret key s) out) :
    ∃ t, e = .request (.applySecret key t) out ∧ s.AlikeBut apiKeyKey t := by
  cases alike with
  | request outcomes =>
    cases applies
    obtain rfl := Request.eq_of_outcomeAlike rfl outcomes
    exact ⟨s, rfl, .refl s⟩
  | apply secrets out' =>
    cases applies
    exact ⟨_, rfl, secrets⟩
  | publish e => cases applies
  | measure m => cases applies

lemma applied_beside {ds es : List Deed} {key : ObjectKey} {s : Secret}
    {out : Except ApiFailure Unit} (alike : List.Forall₂ Deed.Alike ds es)
    (mem : Deed.request (.applySecret key s) out ∈ ds) :
    ∃ t, Deed.request (.applySecret key t) out ∈ es ∧ s.AlikeBut apiKeyKey t := by
  induction alike with
  | nil => exact absurd mem List.not_mem_nil
  | cons first _ ih =>
    rcases List.mem_cons.1 mem with same | mem
    · obtain ⟨t, rfl, secrets⟩ := first.applied same.symm
      exact ⟨t, List.mem_cons_self, secrets⟩
    · obtain ⟨t, mem, secrets⟩ := ih mem
      exact ⟨t, List.mem_cons_of_mem _ mem, secrets⟩

end Deed

/-- Of two runs, the same requests fail for the same reasons, as far as both go. -/
def FailAlike (ds es : List Deed) : Prop :=
  ∀ (n : ℕ) (d e : Deed), ds[n]? = some d → es[n]? = some e → d.failure? = e.failure?

section

variable {d e : Deed} {ds es : List Deed}

lemma failAlike_nil : FailAlike [] [] := fun _ _ _ h => by cases h

lemma failAlike_cons :
    FailAlike (d :: ds) (e :: es) ↔ d.failure? = e.failure? ∧ FailAlike ds es := by
  constructor
  · exact fun h => ⟨h 0 d e rfl rfl, fun n d' e' hd he => h (n + 1) d' e' hd he⟩
  · rintro ⟨first, rest⟩ n d' e' hd he
    cases n with
    | zero =>
      obtain rfl := Option.some.inj hd
      obtain rfl := Option.some.inj he
      exact first
    | succ n => exact rest n d' e' hd he

lemma FailAlike.of_undisturbed (hd : Undisturbed ds) (he : Undisturbed es) : FailAlike ds es := by
  have unfailing : ∀ d : Deed, ¬ d.Fails → d.failure? = none := by
    rintro (⟨q, e | a⟩ | _ | _) calm
    · exact absurd Deed.fails_error calm
    · rfl
    · rfl
    · rfl
  intro n d e at_ds at_es
  rw [unfailing d (hd d (List.mem_of_getElem? at_ds)),
    unfailing e (he e (List.mem_of_getElem? at_es))]

end

lemma Request.OutcomeAlike.failure?_eq {r : Request} {out out' : r.Outcome}
    (h : r.OutcomeAlike out out') :
    (Deed.request r out).failure? = (Deed.request r out').failure? := by
  cases h <;> rfl

namespace Objects.Alike

variable {o o' o₁ o₁' : Objects} {now : Timestamp}

/-- A request that is sent to two alike clusters, and fails in both or neither, has alike outcomes
and leaves the clusters alike. -/
lemma requested {r : Request} {out out' : r.Outcome} (same : o.Alike o')
    (done : o.Allows now [.request r out] o₁) (done' : o'.Allows now [.request r out'] o₁')
    (fail : (Deed.request r out).failure? = (Deed.request r out').failure?) :
    r.OutcomeAlike out out' ∧ o₁.Alike o₁' := by
  cases out with
  | error e =>
    cases out' with
    | ok a' => cases fail
    | error e' =>
      obtain rfl := Option.some.inj fail
      obtain rfl : o₁ = o := done
      obtain rfl : o₁' = o' := done'
      exact ⟨.error e, same⟩
  | ok a =>
    cases out' with
    | error e' => cases fail
    | ok a' =>
      obtain ⟨rfl, rfl⟩ := done
      obtain ⟨rfl, rfl⟩ := done'
      obtain ⟨answers, after⟩ := same.answer now r
      exact ⟨.ok answers, after⟩

/-- What becomes of a request in one cluster can become of it in an alike one. -/
lemma request_partner {r : Request} {out : r.Outcome} (same : o.Alike o')
    (done : o.Allows now [.request r out] o₁) :
    ∃ out' o₁', r.OutcomeAlike out out' ∧ o'.Allows now [.request r out'] o₁' ∧
      o₁.Alike o₁' := by
  cases out with
  | error e =>
    obtain rfl : o₁ = o := done
    exact ⟨.error e, o', .error e, rfl, same⟩
  | ok a =>
    obtain ⟨rfl, rfl⟩ := done
    obtain ⟨answers, after⟩ := same.answer now r
    exact ⟨.ok _, _, .ok answers, ⟨rfl, rfl⟩, after⟩

/-- What becomes of a Secret that is applied in one cluster can become of an alike one in an alike
cluster. -/
lemma apply_partner {key : ObjectKey} {s t : Secret} {out : Except ApiFailure Unit}
    (same : o.Alike o') (secrets : s.Alike t)
    (done : o.Allows now [.request (.applySecret key s) out] o₁) :
    ∃ o₁', o'.Allows now [.request (.applySecret key t) out] o₁' ∧ o₁.Alike o₁' := by
  cases out with
  | error e =>
    obtain rfl : o₁ = o := done
    exact ⟨o', rfl, same⟩
  | ok a =>
    obtain ⟨-, rfl⟩ := done
    exact ⟨_, ⟨rfl, rfl⟩, same.applied secrets now key⟩

/-- Two alike Secrets that are applied in alike clusters, and fail to be in both or neither, leave
the clusters alike. -/
lemma both_applied {key : ObjectKey} {s t : Secret} {out out' : Except ApiFailure Unit}
    (same : o.Alike o') (secrets : s.Alike t)
    (done : o.Allows now [.request (.applySecret key s) out] o₁)
    (done' : o'.Allows now [.request (.applySecret key t) out'] o₁')
    (fail : (Deed.request (.applySecret key s) out).failure? =
      (Deed.request (.applySecret key t) out').failure?) : out = out' ∧ o₁.Alike o₁' := by
  obtain ⟨o₂, done₂, after⟩ := same.apply_partner secrets done
  cases out with
  | error e =>
    cases out' with
    | ok a' => cases fail
    | error e' =>
      obtain rfl := Option.some.inj fail
      obtain rfl : o₂ = o' := done₂
      obtain rfl : o₁' = o₂ := done'
      exact ⟨rfl, after⟩
  | ok a =>
    cases out' with
    | error e' => cases fail
    | ok a' =>
      obtain ⟨-, rfl⟩ := done₂
      obtain ⟨-, rfl⟩ := done'
      exact ⟨rfl, after⟩

end Objects.Alike

namespace Program

variable {α β : Type} {A : Secret → Secret → Prop} {R : α → α → Prop} {S : β → β → Prop}
  {p q : Program α} {a b : α} {o o' o₁ o₁' : Objects} {now : Timestamp} {ds es : List Deed}

/-- Whoever may apply no Secrets applies none. -/
lemma Alike.not_applied (h : p.Alike (fun _ _ => False) R q) (runs : p.Runs ds a)
    {key : ObjectKey} {s : Secret} {out : Except ApiFailure Unit} :
    Deed.request (.applySecret key s) out ∉ ds := by
  induction h generalizing ds with
  | done _ =>
    cases runs
    exact List.not_mem_nil
  | publish _ ih =>
    cases runs with | publish runs =>
    simpa using ih runs
  | measure _ ih =>
    cases runs with | measure runs =>
    simpa using ih runs
  | request other _ ih =>
    cases runs with | request out' runs =>
    intro mem
    rcases List.mem_cons.1 mem with same | mem
    · cases same
      cases other
    · exact absurd mem (ih out' out' (.refl out') runs)
  | apply impossible _ _ => exact impossible.elim

/-- Over alike clusters, runs of alike programs in which the same requests fail do the same deed by
deed, end with related results and leave alike clusters. -/
theorem Alike.lockstep (h : p.Alike (Secret.AlikeBut apiKeyKey) R q) (same : o.Alike o')
    (runs : p.Runs ds a) (allowed : o.Allows now ds o₁) (runs' : q.Runs es b)
    (allowed' : o'.Allows now es o₁') (fail : FailAlike ds es) :
    List.Forall₂ Deed.Alike ds es ∧ R a b ∧ o₁.Alike o₁' := by
  -- likeness pairs the steps of the programs; the clusters are alike again after each pair
  induction h generalizing o o' ds es with
  | done related =>
    cases runs
    cases runs'
    obtain rfl : o₁ = o := allowed
    obtain rfl : o₁' = o' := allowed'
    exact ⟨.nil, related, same⟩
  | publish rest ih =>
    cases runs with | publish runs =>
    cases runs' with | publish runs' =>
    obtain ⟨deeds, ends⟩ := ih same runs allowed runs' allowed' (failAlike_cons.1 fail).2
    exact ⟨.cons (.publish _) deeds, ends⟩
  | measure rest ih =>
    cases runs with | measure runs =>
    cases runs' with | measure runs' =>
    obtain ⟨deeds, ends⟩ := ih same runs allowed runs' allowed' (failAlike_cons.1 fail).2
    exact ⟨.cons (.measure _) deeds, ends⟩
  | request _ rest ih =>
    cases runs with | request out runs =>
    cases runs' with | request out' runs' =>
    obtain ⟨first, later⟩ := failAlike_cons.1 fail
    obtain ⟨o₂, done, allowed⟩ := Objects.allows_cons.1 allowed
    obtain ⟨o₂', done', allowed'⟩ := Objects.allows_cons.1 allowed'
    obtain ⟨alike, same⟩ := same.requested done done' first
    obtain ⟨deeds, ends⟩ := ih _ _ alike same runs allowed runs' allowed' later
    exact ⟨.cons (.request alike) deeds, ends⟩
  | apply secrets rest ih =>
    cases runs with | request out runs =>
    cases runs' with | request out' runs' =>
    obtain ⟨first, fail'⟩ := failAlike_cons.1 fail
    obtain ⟨o₂, done, later⟩ := Objects.allows_cons.1 allowed
    obtain ⟨o₂', done', later'⟩ := Objects.allows_cons.1 allowed'
    obtain ⟨rfl, same⟩ := same.both_applied secrets.toAlike done done' first
    obtain ⟨deeds, ends⟩ := ih _ same runs later runs' later' fail'
    exact ⟨.cons (.apply secrets _) deeds, ends⟩

/-- Over an alike cluster, an alike program has a run in which the same requests fail. -/
theorem Alike.partner (h : p.Alike (Secret.AlikeBut apiKeyKey) R q) (same : o.Alike o')
    (runs : p.Runs ds a) (allowed : o.Allows now ds o₁) :
    ∃ es b o₁', q.Runs es b ∧ o'.Allows now es o₁' ∧ FailAlike ds es := by
  -- each request gets the answer of the other cluster, or fails as in the given run
  induction h generalizing o o' ds with
  | done related =>
    cases runs
    exact ⟨[], _, o', .done _, rfl, failAlike_nil⟩
  | publish rest ih =>
    cases runs with | publish runs =>
    obtain ⟨es, b, o₁', runs', allowed', fail⟩ := ih same runs allowed
    exact ⟨_, b, o₁', .publish runs', allowed', failAlike_cons.2 ⟨rfl, fail⟩⟩
  | measure rest ih =>
    cases runs with | measure runs =>
    obtain ⟨es, b, o₁', runs', allowed', fail⟩ := ih same runs allowed
    exact ⟨_, b, o₁', .measure runs', allowed', failAlike_cons.2 ⟨rfl, fail⟩⟩
  | request _ rest ih =>
    cases runs with | request out runs =>
    obtain ⟨o₂, done, allowed⟩ := Objects.allows_cons.1 allowed
    obtain ⟨out', o₂', alike, done', same⟩ := same.request_partner done
    obtain ⟨es, b, o₁', runs', allowed', fail⟩ := ih _ _ alike same runs allowed
    exact ⟨_, b, o₁', .request out' runs', Objects.allows_cons.2 ⟨o₂', done', allowed'⟩,
      failAlike_cons.2 ⟨alike.failure?_eq, fail⟩⟩
  | @apply key s t next next' secrets rest ih =>
    cases runs with | request out runs =>
    obtain ⟨o₂, done, allowed⟩ := Objects.allows_cons.1 allowed
    obtain ⟨o₂', done', same⟩ := same.apply_partner secrets.toAlike done
    obtain ⟨es, b, o₁', runs', allowed', fail⟩ := ih _ same runs allowed
    have first : (Deed.request (.applySecret key s) out).failure? =
        (Deed.request (.applySecret key t) out).failure? := by
      cases out <;> rfl
    exact ⟨.request (.applySecret key t) out :: es, b, o₁', .request _ runs',
      Objects.allows_cons.2 ⟨o₂', done', allowed'⟩, failAlike_cons.2 ⟨first, fail⟩⟩

/-! ## Sequences -/

/-- What is done with related results is alike, and so is a sequence. -/
lemma Alike.bind {f g : α → Program β} (h : p.Alike A R q)
    (rest : ∀ a b, R a b → (f a).Alike A S (g b)) : (p >>= f).Alike A S (q >>= g) := by
  induction h with
  | done related => exact rest _ _ related
  | publish _ ih => exact .publish ih
  | measure _ ih => exact .measure ih
  | request other _ ih => exact .request other ih
  | apply secrets _ ih => exact .apply secrets ih

lemma Discreet.bind {f : α → Program β} (h : p.Discreet A) (rest : ∀ a, (f a).Discreet A) :
    (p >>= f).Discreet A :=
  Alike.bind h fun a _ same => same ▸ rest a

lemma alike_send {r : Request} (other : r.appliesSecret = false) :
    (Program.send r).Alike A r.OutcomeAlike (Program.send r) :=
  .request other fun _ _ same => .done same

/-- Whoever asks for no Secret learns nothing of its bytes. -/
lemma discreet_send {r : Request} (plain : r.isPlain = true) : (Program.send r).Discreet A :=
  .request (Request.isPlain_iff.1 plain).1 fun _ _ same =>
    .done (Request.eq_of_outcomeAlike (Request.isPlain_iff.1 plain).2 same)

end Program

section Early

variable {ε α β : Type} {A : Secret → Secret → Prop}

lemma discreet_pure (a : α) : (pure a : ExceptT ε Program α).run.Discreet A := .done rfl

lemma discreet_throw (e : ε) : (throw e : ExceptT ε Program α).run.Discreet A := .done rfl

lemma discreet_run_bind {x : ExceptT ε Program α} {f : α → ExceptT ε Program β}
    (h : x.run.Discreet A) (rest : ∀ a, (f a).run.Discreet A) : (x >>= f).run.Discreet A := by
  rw [ExceptT.run_bind]
  refine h.bind fun result => ?_
  cases result with
  | ok a => exact rest a
  | error e => exact .done rfl

lemma discreet_lift_bind {p : Program α} {f : α → ExceptT ε Program β} (h : p.Discreet A)
    (rest : ∀ a, (f a).run.Discreet A) : (ExceptT.lift p >>= f).run.Discreet A := by
  rw [ExceptT.run_bind_lift]
  exact h.bind rest

end Early

namespace Pass

variable {α β : Type} {A : Secret → Secret → Prop}

lemma discreet_send_bind {q : Request} {f : q.Answer → Pass β} (plain : q.isPlain = true)
    (rest : ∀ a, (f a).run.Discreet A) : (Pass.send q >>= f).run.Discreet A := by
  obtain ⟨other, blind⟩ := Request.isPlain_iff.1 plain
  refine .request other fun out out' same => ?_
  obtain rfl := Request.eq_of_outcomeAlike blind same
  cases out with
  | ok a => exact rest a
  | error e => exact .done rfl

lemma discreet_note_bind {m : Measurement} {f : Unit → Pass β} (rest : (f ()).run.Discreet A) :
    (Pass.note m >>= f).run.Discreet A :=
  .measure rest

lemma discreet_emit_bind {e : Event} {f : Unit → Pass β} (rest : (f ()).run.Discreet A) :
    (Pass.emit e >>= f).run.Discreet A :=
  .publish rest

/-- The measurements at the end of a pass tell how it ended, and nothing else. -/
lemma discreet_measured {controller : Controller} {p : Pass α} (h : p.run.Discreet A) :
    (Pass.measured controller p).run.Discreet A := by
  refine h.bind fun result => ?_
  cases result with
  | ok a => exact .measure (.done rfl)
  | error e => exact .measure (.measure (.done rfl))

end Pass

namespace Provisioning

variable {β : Type} {A : Secret → Secret → Prop} {context : String}

/-- Attempts that go on alike with alike answers to a request are alike. -/
lemma alike_send_bind {q : Request} {f g : q.Answer → Provisioning β}
    (other : q.appliesSecret = false)
    (rest : ∀ a b, q.AnswerAlike a b → (f a).run.Alike A (· = ·) (g b).run) :
    (Provisioning.send context q >>= f).run.Alike A (· = ·)
      (Provisioning.send context q >>= g).run := by
  refine .request other fun out out' same => ?_
  cases same with
  | ok answers => exact rest _ _ answers
  | error e => exact .done rfl

lemma discreet_send_bind {q : Request} {f : q.Answer → Provisioning β}
    (plain : q.isPlain = true) (rest : ∀ a, (f a).run.Discreet A) :
    (Provisioning.send context q >>= f).run.Discreet A := by
  obtain ⟨other, blind⟩ := Request.isPlain_iff.1 plain
  refine alike_send_bind other fun a b same => ?_
  obtain rfl := Request.eq_of_answerAlike blind same
  exact rest a

/-- Attempts that apply Secrets that are related as agreed, and go on alike, are alike. -/
lemma alike_apply_bind {key : ObjectKey} {s t : Secret} {f g : Unit → Provisioning β}
    (secrets : A s t) (rest : (f ()).run.Alike A (· = ·) (g ()).run) :
    (Provisioning.send context (.applySecret key s) >>= f).run.Alike A (· = ·)
      (Provisioning.send context (.applySecret key t) >>= g).run := by
  refine .apply secrets fun out => ?_
  cases out with
  | ok a => exact rest
  | error e => exact .done rfl

end Provisioning

end CredentialOperator
