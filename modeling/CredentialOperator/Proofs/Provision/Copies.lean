import CredentialOperator.Proofs.Reconcile.Gates

/-!
# What a copy of the master key is

Copying the master key of a provider for a grant is all or nothing.  An attempt looks first, at the
master Secret and at the artifact that is there, and writes last (`DirectCopy.Went`): one that fails
has changed nothing, and one that succeeds has written the artifact once, and in full.

What it writes is told by `DirectCopy.Renders`, which leaves no choice (`DirectCopy.Renders.unique`)
and does not mention what the artifact replaces.  So attempts with the same provider, grant and
master Secret write the same, whatever has become of the artifact in the meantime; it is read for
its age only (`DirectCopy.exact_or_nothing`).
-/

namespace CredentialOperator

/-- What a deed asks to be written as a Secret, and where. -/
def Deed.applied? : Deed → Option (ObjectKey × Secret)
  | .request (.applySecret key t) _ => some (key, t)
  | _ => none

lemma Deed.Reads.applied? {d : Deed} (h : d.Reads) : d.applied? = none := by
  cases d with
  | request r o => cases r <;> first | rfl | simp [Deed.Reads, Request.reads] at h
  | publish e => rfl
  | measure m => rfl

/-- All the readings of a run succeed. -/
def ReadsWell (ds : List Deed) : Prop := ∀ d ∈ ds, d.Reads → ¬ d.Fails

/-- A list names the keys that a Secret holds, in their order. -/
structure Secret.Listed (t : Secret) (keys : List String) : Prop where
  ascending : keys.Pairwise (· < ·)
  mem_iff : ∀ key, key ∈ keys ↔ (t.get? key).isSome

/-- Secrets that hold the same under every key, and hold something, hold the same data. -/
lemma Secret.data_eq_of_get? {s t : Secret} {key : String} {value : List UInt8}
    (held : s.get? key = some value) (same : ∀ key, s.get? key = t.get? key) :
    s.data = t.data := by
  have held' : t.get? key = some value := same key ▸ held
  unfold get? at held held' same
  cases hs : s.data with
  | none => simp [hs] at held
  | some data =>
    cases ht : t.data with
    | none => simp [ht] at held'
    | some data' =>
      congr 1
      ext1 key
      simpa [hs, ht] using same key

/-! ## The master key -/

namespace Objects

/-- The master Secret of a provider holds `value` under the key that the provider declares. -/
def MasterHolds (o : Objects) (p : Provider) (value : List UInt8) : Prop :=
  ∃ k master, p.spec.auth.apiKey = some k ∧
    o.secrets[k.secretRef.secretKey]? = some master ∧ master.get? k.secretRef.key = some value

/-- There is no key to copy, for the reason given. -/
inductive Keyless (o : Objects) (p : Provider) : ProvisionFailure → Prop where
  /-- The provider lacks the block. -/
  | block (h : p.spec.auth.apiKey = none) : Keyless o p (.missingConfig p.name)
  /-- There is no master Secret. -/
  | master {k : ApiKeyAuth} (h : p.spec.auth.apiKey = some k)
      (absent : o.secrets[k.secretRef.secretKey]? = none) :
      Keyless o p (.sourceSecretNotFound k.secretRef.ns k.secretRef.name)
  /-- The master Secret lacks the declared key. -/
  | key {k : ApiKeyAuth} {master : Secret} (h : p.spec.auth.apiKey = some k)
      (there : o.secrets[k.secretRef.secretKey]? = some master)
      (absent : master.get? k.secretRef.key = none) :
      Keyless o p (.sourceKeyMissing k.secretRef.ns k.secretRef.name k.secretRef.key)

/-- Two clusters have the same master Secret for a provider, or both have none. -/
def SameMaster (o₁ o₂ : Objects) (p : Provider) : Prop :=
  ∀ k, p.spec.auth.apiKey = some k →
    o₁.secrets[k.secretRef.secretKey]? = o₂.secrets[k.secretRef.secretKey]?

section

variable {o o₁ o₂ : Objects} {p : Provider} {v w : List UInt8} {e : ProvisionFailure}

lemma MasterHolds.unique (h : o.MasterHolds p v) (h' : o.MasterHolds p w) : v = w := by
  obtain ⟨k, master, declared, there, held⟩ := h
  obtain ⟨k', master', declared', there', held'⟩ := h'
  obtain rfl : k = k' := Option.some.inj (declared.symm.trans declared')
  obtain rfl : master = master' := Option.some.inj (there.symm.trans there')
  exact Option.some.inj (held.symm.trans held')

lemma MasterHolds.congr (h : o₁.MasterHolds p v) (same : o₁.SameMaster o₂ p) :
    o₂.MasterHolds p v := by
  obtain ⟨k, master, declared, there, held⟩ := h
  exact ⟨k, master, declared, same k declared ▸ there, held⟩

lemma Keyless.not_masterHolds (h : o.Keyless p e) : ¬ o.MasterHolds p v := by
  rintro ⟨k, master, declared, there, held⟩
  cases h <;> simp_all

lemma SameMaster.symm (h : o₁.SameMaster o₂ p) : o₂.SameMaster o₁ p :=
  fun k declared => (h k declared).symm

end

end Objects

/-! ## The artifact -/

namespace DirectCopy

/-- `t` is what is to be written for a grant in a namespace, around the key `value`: the key, the
type of the provider, the base address if another than the usual one is declared, and no more. -/
structure Renders (p : Provider) (g : Grant) (ns : String) (value : List UInt8) (t : Secret) :
    Prop where
  type : t.type = some "Opaque"
  metadata : t.metadata = {
    name := some g.spec.secretName
    ns := some ns
    labels := some (g.artifactLabels p)
    ownerReferences := g.artifactOwners? }
  key : t.get? "apiKey" = some value
  provider : t.get? "provider" = some (Secret.bytesOf p.spec.provider.text)
  baseUrl : ∀ bytes, t.get? "baseUrl" = some bytes ↔
    ∃ endpoint url, p.spec.endpoint = some endpoint ∧ endpoint.baseUrl = some url ∧ url ≠ "" ∧
      bytes = Secret.bytesOf url
  others : ∀ key, key ≠ "apiKey" → key ≠ "provider" → key ≠ "baseUrl" → t.get? key = none
  texts : t.stringData = none
  changeable : t.immutable = none

section

variable {p : Provider} {g : Grant} {ns : String} {value : List UInt8} {t t' : Secret}

lemma baseUrl?_eq_some {s : ProviderSpec} {url : String} :
    s.baseUrl? = some url ↔
      ∃ endpoint, s.endpoint = some endpoint ∧ endpoint.baseUrl = some url ∧ url ≠ "" := by
  simp [ProviderSpec.baseUrl?, Option.filter_eq_some_iff, Option.bind_eq_some_iff, ← and_assoc]

lemma renders_artifact : Renders p g ns value (artifact p g ns value) where
  type := rfl
  metadata := rfl
  key := by simp [get?_artifact_eq, providerKey, baseUrlKey, apiKeyKey]
  provider := by simp [get?_artifact_eq, providerKey]
  baseUrl bytes := by
    simp only [get?_artifact_eq, providerKey, baseUrlKey, reduceIte, String.reduceEq,
      Option.map_eq_some_iff, baseUrl?_eq_some]
    constructor
    · rintro ⟨url, ⟨endpoint, declared, set, nonempty⟩, rfl⟩
      exact ⟨endpoint, url, declared, set, nonempty, rfl⟩
    · rintro ⟨endpoint, url, declared, set, nonempty, rfl⟩
      exact ⟨url, ⟨endpoint, declared, set, nonempty⟩, rfl⟩
  others key h₁ h₂ h₃ := by
    simp [get?_artifact_eq, providerKey, baseUrlKey, apiKeyKey, h₁, h₂, h₃]
  texts := rfl
  changeable := rfl

/-- There is one way to write the artifact. -/
lemma Renders.unique (h : Renders p g ns value t) (h' : Renders p g ns value t') : t = t' := by
  have same : ∀ key, t.get? key = t'.get? key := by
    intro key
    by_cases h₁ : key = "apiKey"
    · rw [h₁, h.key, h'.key]
    by_cases h₂ : key = "provider"
    · rw [h₂, h.provider, h'.provider]
    by_cases h₃ : key = "baseUrl"
    · rw [h₃]
      ext bytes
      rw [h.baseUrl, h'.baseUrl]
    rw [h.others key h₁ h₂ h₃, h'.others key h₁ h₂ h₃]
  have data : t.data = t'.data := Secret.data_eq_of_get? h.key same
  cases t
  cases t'
  simp only [Secret.mk.injEq]
  exact ⟨h.metadata.trans h'.metadata.symm, data, h.changeable.trans h'.changeable.symm,
    h.texts.trans h'.texts.symm, h.type.trans h'.type.symm⟩

/-- The keys of the artifact are told in order. -/
lemma listed_artifact : (artifact p g ns value).Listed (artifactData p value).keys where
  ascending := by
    refine Std.ExtTreeMap.ordered_keys.imp fun {a b} h => ?_
    exact compareOfLessAndEq_eq_lt.1 h
  mem_iff key := by
    change _ ↔ ((artifactData p value)[key]?).isSome
    rw [Std.ExtTreeMap.mem_keys, Std.ExtTreeMap.isSome_getElem?_iff_mem]

end

/-! ## Attempts -/

/-- `p` is asked to copy its key for `g` in a cluster that holds `o`, and leaves it with `o'`. -/
structure Tries (now : Timestamp) (p : Provider) (g : Grant) (o : Objects) (ds : List Deed)
    (r : Except ProvisionFailure ProvisionResult) (o' : Objects) : Prop where
  runs : (provision now p g).run.Runs ds r
  allowed : o.Allows now ds o'

/-- The ways in which an attempt can go in a cluster that holds `o`: what it found, and the one
write that follows. -/
inductive Went (o : Objects) (p : Provider) (g : Grant) (ns : String) :
    List Deed → Except ProvisionFailure ProvisionResult → Prop where
  /-- There is no key. -/
  | keyless {looks : List Deed} {e : ProvisionFailure} (reads : ∀ d ∈ looks, d.Reads)
      (well : Undisturbed looks) (h : o.Keyless p e) : Went o p g ns looks (.error e)
  /-- A reading fails. -/
  | unread {looks : List Deed} {d : Deed} {e : ProvisionFailure} (reads : ∀ d ∈ looks, d.Reads)
      (mem : d ∈ looks) (fails : d.Fails) : Went o p g ns looks (.error e)
  /-- The artifact is written, or the writing fails. -/
  | wrote {looks : List Deed} {value : List UInt8} {t : Secret} {out : Except ApiFailure Unit}
      {r : Except ProvisionFailure ProvisionResult} (reads : ∀ d ∈ looks, d.Reads)
      (well : Undisturbed looks) (held : o.MasterHolds p value) (renders : Renders p g ns value t)
      (told : (∃ e cause, out = .error cause ∧ r = .error e) ∨
        ∃ result, out = .ok () ∧ r = .ok result ∧ t.Listed result.keys) :
      Went o p g ns (looks ++ [.request (.applySecret (g.artifactKey ns) t) out]) r

section

variable {now now₁ : Timestamp} {p : Provider} {g : Grant} {ns : String} {o o' o₁ : Objects}
  {ds ds₁ : List Deed} {r r₁ : Except ProvisionFailure ProvisionResult}

/-- After the master Secret and the artifact were read, the artifact is written. -/
lemma Went.of_looks {value : List UInt8} {out : Except ApiFailure Unit} (k : ApiKeyAuth)
    (master : Secret) (old : Option Secret) (held : o.MasterHolds p value)
    (told : (∃ e cause, out = .error cause ∧ r = .error e) ∨
      ∃ result, out = .ok () ∧ r = .ok result ∧
        (artifact p g ns value).Listed result.keys) :
    Went o p g ns
      [.request (.getSecret k.secretRef.secretKey) (.ok (some master)),
        .request (.getSecret (g.artifactKey ns)) (.ok old),
        .request (.applySecret (g.artifactKey ns) (artifact p g ns value)) out] r := by
  let looks : List Deed := [.request (.getSecret k.secretRef.secretKey) (.ok (some master)),
    .request (.getSecret (g.artifactKey ns)) (.ok old)]
  have reads : ∀ d ∈ looks, d.Reads := by simp [looks, Deed.Reads, Request.reads]
  have well : Undisturbed looks := by simp [looks, Deed.Fails]
  exact .wrote reads well held renders_artifact told

lemma Attempt.went (h : Attempt now p g ns ds r) (ha : o.Allows now ds o') :
    Went o p g ns ds r := by
  cases h with
  | unconfigured declared => exact .keyless (by simp) (by simp) (.block declared)
  | masterUnread declared context e =>
    exact .unread (by simp [Deed.Reads, Request.reads]) (List.mem_cons_self ..) Deed.fails_error
  | masterMissing declared =>
    exact .keyless (by simp [Deed.Reads, Request.reads]) (by simp [Deed.Fails])
      (.master declared ha.1)
  | keyMissing declared absent =>
    exact .keyless (by simp [Deed.Reads, Request.reads]) (by simp [Deed.Fails])
      (.key declared ha.1 absent)
  | @artifactUnread k master value declared held context e =>
    exact .unread (d := .request (.getSecret (g.artifactKey ns)) (.error e))
      (by simp [Deed.Reads, Request.reads]) (by simp) Deed.fails_error
  | @unwritten k master value declared held old context e =>
    exact .of_looks k master old ⟨k, master, declared, ha.1, held⟩ (.inl ⟨_, e, rfl, rfl⟩)
  | @written k master value declared held old =>
    exact .of_looks k master old ⟨k, master, declared, ha.1, held⟩
      (.inr ⟨_, rfl, rfl, listed_artifact⟩)

lemma Tries.went (home : g.metadata.ns = some ns) (h : Tries now p g o ds r o') :
    Went o p g ns ds r :=
  (attempt_of_runs home h.runs).went h.allowed

lemma applied_looks {looks : List Deed} (reads : ∀ d ∈ looks, d.Reads) :
    looks.filterMap Deed.applied? = [] :=
  List.filterMap_eq_nil_iff.2 fun d hd => (reads d hd).applied?

lemma applied_wrote {looks : List Deed} (reads : ∀ d ∈ looks, d.Reads) {key : ObjectKey}
    {t : Secret} {out : Except ApiFailure Unit} :
    (looks ++ [Deed.request (.applySecret key t) out]).filterMap Deed.applied? = [(key, t)] := by
  simp [applied_looks reads, Deed.applied?]

/-- What a cluster holds after the looks and the write. -/
lemma allows_wrote {looks : List Deed} (reads : ∀ d ∈ looks, d.Reads) {key : ObjectKey}
    {t : Secret} {out : Except ApiFailure Unit}
    (ha : o.Allows now (looks ++ [.request (.applySecret key t) out]) o') :
    (∀ cause, out = .error cause → o' = o) ∧
      (out = .ok () → o' = { o with
        secrets := o.secrets.insert key (Objects.storedSecret now o.secrets[key]? t) }) := by
  obtain ⟨o₁, looked, rest⟩ := Objects.allows_append.1 ha
  obtain rfl := Objects.allows_of_quiet (fun d hd => (reads d hd).quiet) looked
  constructor
  · rintro cause rfl
    exact rest
  · rintro rfl
    exact rest.2

/-- An attempt that fails leaves the cluster as it was. -/
lemma Went.unchanged {e : ProvisionFailure} (h : Went o p g ns ds (.error e))
    (ha : o.Allows now ds o') : o' = o := by
  cases h with
  | keyless reads well h => exact Objects.allows_of_quiet (fun d hd => (reads d hd).quiet) ha
  | unread reads mem fails => exact Objects.allows_of_quiet (fun d hd => (reads d hd).quiet) ha
  | wrote reads well held renders told =>
    rcases told with ⟨_, cause, rfl, _⟩ | ⟨_, _, failed, _⟩
    · exact (allows_wrote reads ha).1 cause rfl
    · cases failed

/-- An attempt fails for want of a key, or since a request did. -/
lemma Went.reason {e : ProvisionFailure} (h : Went o p g ns ds (.error e)) :
    o.Keyless p e ∨ ¬ Undisturbed ds := by
  cases h with
  | keyless reads well h => exact .inl h
  | unread reads mem fails => exact .inr fun well => well _ mem fails
  | wrote reads well held renders told =>
    rcases told with ⟨_, cause, rfl, _⟩ | ⟨_, _, failed, _⟩
    · refine .inr fun undisturbed => ?_
      exact undisturbed _ (List.mem_append_right _ (List.mem_singleton_self _)) Deed.fails_error
    · cases failed

/-- An attempt that succeeds had a key, and wrote the artifact around it. -/
lemma Went.copied {result : ProvisionResult} (h : Went o p g ns ds (.ok result))
    (ha : o.Allows now ds o') :
    Undisturbed ds ∧ ∃ value t, o.MasterHolds p value ∧ Renders p g ns value t ∧
      t.Listed result.keys ∧ ds.filterMap Deed.applied? = [(g.artifactKey ns, t)] ∧
      o' = { o with
        secrets := o.secrets.insert (g.artifactKey ns)
          (Objects.storedSecret now o.secrets[g.artifactKey ns]? t) } := by
  cases h with
  | @wrote looks value t out r reads well held renders told =>
    rcases told with ⟨_, _, _, failed⟩ | ⟨result, rfl, same, listed⟩
    · cases failed
    cases same
    exact ⟨by simpa [Deed.Fails] using well, value, t, held, renders, listed, applied_wrote reads,
      (allows_wrote reads ha).2 rfl⟩

/-- What is to be written is decided by the master Secret, if all readings succeed. -/
lemma Went.applied_eq (h : Went o p g ns ds r) (h₁ : Went o₁ p g ns ds₁ r₁)
    (same : o₁.SameMaster o p) (well : ReadsWell ds) (well₁ : ReadsWell ds₁) :
    ds₁.filterMap Deed.applied? = ds.filterMap Deed.applied? := by
  cases h with
  | unread reads mem fails => exact absurd fails (well _ mem (reads _ mem))
  | keyless reads _ none_held =>
    cases h₁ with
    | unread reads₁ mem fails => exact absurd fails (well₁ _ mem (reads₁ _ mem))
    | keyless reads₁ _ _ => rw [applied_looks reads, applied_looks reads₁]
    | wrote _ _ held _ _ => exact absurd (held.congr same) none_held.not_masterHolds
  | wrote reads _ held renders _ =>
    cases h₁ with
    | unread reads₁ mem fails => exact absurd fails (well₁ _ mem (reads₁ _ mem))
    | keyless _ _ none_held => exact absurd (held.congr same.symm) none_held.not_masterHolds
    | wrote reads₁ _ held₁ renders₁ _ =>
      obtain rfl := held.unique (held₁.congr same)
      obtain rfl := renders.unique renders₁
      rw [applied_wrote reads, applied_wrote reads₁]

end

/-- Copying a key for a grant in a namespace is all or nothing, and exact.  Over any objects there
is an attempt whose requests all succeed, and of any attempt it holds:

* if it fails, for want of a key or since a request failed, the objects are as they were, and it
  does fail then;
* if it succeeds, it made one write, of the Secret that `Renders` tells, around the master key, and
  names the keys of that Secret in their order;
* any other attempt, at any time and over any objects with the same master Secret, asks for the
  same to be written, provided that no reading of either fails.  In particular the artifact that it
  finds does not matter.  (Where a provider refers to the artifact itself as its master Secret, a
  changed artifact is a changed master Secret.) -/
theorem exact_or_nothing {p : Provider} {g : Grant} {ns : String}
    (home : g.metadata.ns = some ns) (now : Timestamp) (o : Objects) :
    (∃ ds r o', Tries now p g o ds r o' ∧ Undisturbed ds) ∧
      ∀ ds r o', Tries now p g o ds r o' →
        (∀ e, r = .error e → o' = o ∧ (o.Keyless p e ∨ ¬ Undisturbed ds)) ∧
        ((∃ e, o.Keyless p e) ∨ ¬ Undisturbed ds → ∃ e, r = .error e) ∧
        (∀ result, r = .ok result → ∃ value t,
          o.MasterHolds p value ∧ Renders p g ns value t ∧ t.Listed result.keys ∧
          ds.filterMap Deed.applied? = [(⟨ns, g.spec.secretName⟩, t)] ∧
          o' = { o with
            secrets := o.secrets.insert ⟨ns, g.spec.secretName⟩
              (Objects.storedSecret now o.secrets[(⟨ns, g.spec.secretName⟩ : ObjectKey)]? t) }) ∧
        ∀ now₁ o₁ ds₁ r₁ o₁', Tries now₁ p g o₁ ds₁ r₁ o₁' → o₁.SameMaster o p →
          ReadsWell ds → ReadsWell ds₁ →
          ds₁.filterMap Deed.applied? = ds.filterMap Deed.applied? := by
  constructor
  · obtain ⟨ds, r, o', runs, allowed, undisturbed⟩ :=
      o.exists_undisturbed now (provision now p g).run
    exact ⟨ds, r, o', ⟨runs, allowed⟩, undisturbed⟩
  intro ds r o' tries
  have went := tries.went home
  refine ⟨?_, ?_, ?_, ?_⟩
  · rintro e rfl
    exact ⟨went.unchanged tries.allowed, went.reason⟩
  · intro hindered
    cases r with
    | error e => exact ⟨e, rfl⟩
    | ok result =>
      obtain ⟨undisturbed, value, t, held, -⟩ := went.copied tries.allowed
      rcases hindered with ⟨e, keyless⟩ | disturbed
      · exact absurd held keyless.not_masterHolds
      · exact absurd undisturbed disturbed
  · rintro result rfl
    exact (went.copied tries.allowed).2
  · intro now₁ o₁ ds₁ r₁ o₁' tries₁ same well well₁
    exact went.applied_eq (tries₁.went home) same well well₁

end DirectCopy

namespace Sample

/-- The small cluster with something else where the artifact of the grant belongs. -/
def tampered : Objects :=
  { objects with
    secrets := objects.secrets.insert ⟨"team", "chat-key"⟩ {
      metadata := { name := some "chat-key", ns := some "team" }
      data := some ((∅ : SecretData).insert "apiKey" [0])
      immutable := some true } }

lemma masterHolds : objects.MasterHolds provider [115, 107] :=
  ⟨{ secretRef := ⟨"master", "platform", "key"⟩ }, master, rfl,
    by simp [objects, SecretKeyReference.secretKey], by simp [Secret.get?, master]⟩

lemma tampered_sameMaster : tampered.SameMaster objects provider := by
  intro k declared
  obtain rfl : k = { secretRef := ⟨"master", "platform", "key"⟩ } := by
    simpa [provider, eq_comm] using declared
  simp [tampered, SecretKeyReference.secretKey, Std.ExtTreeMap.getElem?_insert]

end Sample

/-- The key is copied into the small cluster, and the same is written over the artifact that was
tampered with. -/
theorem sample_exact_or_nothing :
    Sample.grant.metadata.ns = some "team" ∧
      ∃ ds ds₁ result r₁ o' o₁' t,
        DirectCopy.Tries .epoch Sample.provider Sample.grant Sample.objects ds (.ok result) o' ∧
        DirectCopy.Tries .epoch Sample.provider Sample.grant Sample.tampered ds₁ r₁ o₁' ∧
        t.get? "apiKey" = some [115, 107] ∧
        ds.filterMap Deed.applied? = [(⟨"team", "chat-key"⟩, t)] ∧
        ds₁.filterMap Deed.applied? = [(⟨"team", "chat-key"⟩, t)] := by
  obtain ⟨⟨ds, r, o', tries, undisturbed⟩, every⟩ :=
    DirectCopy.exact_or_nothing Sample.at_home .epoch Sample.objects (p := Sample.provider)
  obtain ⟨⟨ds₁, r₁, o₁', tries₁, undisturbed₁⟩, -⟩ :=
    DirectCopy.exact_or_nothing Sample.at_home .epoch Sample.tampered (p := Sample.provider)
  obtain ⟨failing, -, copied, alike⟩ := every ds r o' tries
  have well : ∀ {ds : List Deed}, Undisturbed ds → ReadsWell ds :=
    fun undisturbed d hd _ => undisturbed d hd
  cases r with
  | error e =>
    rcases (failing e rfl).2 with keyless | disturbed
    · exact absurd Sample.masterHolds keyless.not_masterHolds
    · exact absurd undisturbed disturbed
  | ok result =>
    obtain ⟨value, t, held, renders, -, applied, -⟩ := copied result rfl
    have same := alike .epoch _ ds₁ r₁ o₁' tries₁ Sample.tampered_sameMaster (well undisturbed)
      (well undisturbed₁)
    obtain rfl := held.unique Sample.masterHolds
    exact ⟨Sample.at_home, ds, ds₁, result, r₁, o', o₁', t, tries, tries₁, renders.key, applied,
      same.trans applied⟩

end CredentialOperator
