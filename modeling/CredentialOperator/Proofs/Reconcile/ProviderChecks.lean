import CredentialOperator.Proofs.Reconcile.Authority
import CredentialOperator.Proofs.Reconcile.Discretion

/-!
# What the check of a provider foretells

The check of a provider and the strategies judge the same block of authentication, each on its
own.  Over the same objects, and as long as no request fails, the check foretells what comes of an
attempt to make an artifact (`CredentialCheck.Foretells`): a provider is healthy if and only if
the attempt succeeds, and each reason for being unhealthy stands for one way to fail.

The exception are providers whose place in an external store lacks the name of the store or the
key in it (`Provider.NamesNowhere`).  The check refuses these, but the attempt does not look, so
that grants are served by a provider that is reported as broken (`unhealthy_yet_provisioned`).
-/

namespace CredentialOperator

/-- A provider refers to an external store, but leaves open which one or which key in it. -/
def Provider.NamesNowhere (p : Provider) : Prop :=
  p.spec.auth.type = .externalSecret ∧
    ∃ c, p.spec.auth.externalSecret = some c ∧ (c.store.name = "" ∨ c.remoteRef.key = "")

/-- A check of a provider tells what comes of an attempt to make an artifact. -/
structure CredentialCheck.Foretells (c : CredentialCheck) (p : Provider)
    (r : Except ProvisionFailure ProvisionResult) : Prop where
  /-- A provider is healthy if and only if an artifact can be made. -/
  healthy : c.healthy = true ↔ ∃ result, r = .ok result
  /-- The block of authentication is missing. -/
  invalidConfig : c.reason = .invalidConfig ↔ r = .error (.missingConfig p.name)
  /-- The master Secret is missing. -/
  secretNotFound : c.reason = .secretNotFound ↔ ∃ k, p.spec.auth.apiKey = some k ∧
    r = .error (.sourceSecretNotFound k.secretRef.ns k.secretRef.name)
  /-- The master Secret lacks the declared key. -/
  secretKeyMissing : c.reason = .secretKeyMissing ↔ ∃ k, p.spec.auth.apiKey = some k ∧
    r = .error (.sourceKeyMissing k.secretRef.ns k.secretRef.name k.secretRef.key)

section

variable {now : Timestamp} {o o₁ o₂ : Objects} {p : Provider} {g : Grant} {ns : String}
  {ds es : List Deed} {c : CredentialCheck} {r : Except ProvisionFailure ProvisionResult}

/-! ## Keys held in a Secret -/

/-- An undisturbed check of a key held in a Secret judges what the cluster holds in its place. -/
lemma checkCredential_apiKey {k : ApiKeyAuth} (type : p.spec.auth.type = .apiKey)
    (block : p.spec.auth.apiKey = some k) (check : (checkCredential p).Runs ds c)
    (ha : o.Allows now ds o₁) (hu : Undisturbed ds) :
    o₁ = o ∧ c = .ofSecret k.secretRef (.ok o.secrets[k.secretRef.secretKey]?) := by
  simp only [checkCredential, type, block, Program.runs_bind] at check
  obtain ⟨ds₁, outcome, ds₂, asked, rest, rfl⟩ := check
  obtain rfl := Program.runs_send.1 asked
  obtain ⟨rfl, rfl⟩ := Program.runs_done.1 rest
  cases outcome with
  | error e => exact absurd Deed.fails_error (undisturbed_cons.1 hu).1
  | ok master =>
    obtain ⟨read, same⟩ := ha
    have read : o.secrets[k.secretRef.secretKey]? = master := read
    exact ⟨same, by rw [read]⟩

/-- The check of a key held in a Secret foretells what copying the key comes to. -/
lemma foretells_directCopy (type : p.spec.auth.type = .apiKey)
    (check : (checkCredential p).Runs ds c) (ha : o.Allows now ds o₁) (hu : Undisturbed ds)
    (attempt : DirectCopy.Attempt now p g ns es r) (ha' : o.Allows now es o₂)
    (hu' : Undisturbed es) : o₁ = o ∧ c.Foretells p r := by
  cases block : p.spec.auth.apiKey with
  | none =>
    simp only [checkCredential, type, block, Program.pure_eq, Program.runs_done] at check
    obtain ⟨rfl, rfl⟩ := check
    refine ⟨ha, ?_⟩
    cases attempt with
    | unconfigured _ => constructor <;> simp [CredentialCheck.invalidConfig, block]
    | masterUnread h _ _ | masterMissing h | keyMissing h _ | artifactUnread h _ _ _
    | unwritten h _ _ _ _ | written h _ _ => simp [block] at h
  | some k =>
    obtain ⟨same, rfl⟩ := checkCredential_apiKey type block check ha hu
    refine ⟨same, ?_⟩
    -- the attempt has read the same place
    cases attempt with
    | unconfigured h => simp [block] at h
    | masterUnread _ _ _ => exact absurd Deed.fails_error (undisturbed_cons.1 hu').1
    | artifactUnread _ _ _ _ =>
      exact absurd Deed.fails_error (undisturbed_cons.1 (undisturbed_cons.1 hu').2).1
    | unwritten _ _ _ _ _ =>
      exact absurd Deed.fails_error
        (undisturbed_cons.1 (undisturbed_cons.1 (undisturbed_cons.1 hu').2).2).1
    | masterMissing h =>
      obtain rfl := Option.some.inj (block.symm.trans h)
      have missing : o.secrets[k.secretRef.secretKey]? = none := ha'.1
      constructor <;> simp [CredentialCheck.ofSecret, block, missing]
    | @keyMissing _ master h hm =>
      obtain rfl := Option.some.inj (block.symm.trans h)
      have found : o.secrets[k.secretRef.secretKey]? = some master := ha'.1
      constructor <;> simp [CredentialCheck.ofSecret, block, found, Secret.holds_eq_isSome, hm]
    | @written _ master value h hm _ =>
      obtain rfl := Option.some.inj (block.symm.trans h)
      have found : o.secrets[k.secretRef.secretKey]? = some master := ha'.1
      constructor <;> simp [CredentialCheck.ofSecret, found, Secret.holds_eq_isSome, hm]

/-! ## Values of an external store -/

/-- The check of a place in an external store sends no request; it refuses a provider that lacks
the block, and one that names nowhere. -/
lemma checkCredential_externalSecret (type : p.spec.auth.type = .externalSecret)
    (check : (checkCredential p).Runs ds c) :
    ds = [] ∧
      ((∃ message, p.spec.auth.externalSecret = none ∧ c = .invalidConfig message) ∨
        (∃ message, p.NamesNowhere ∧ c = .invalidConfig message) ∨
        p.spec.auth.externalSecret.isSome ∧ ¬ p.NamesNowhere ∧ c.healthy = true ∧
          c.reason = .externalSecretConfigured) := by
  cases block : p.spec.auth.externalSecret with
  | none =>
    simp only [checkCredential, type, block, Program.pure_eq, Program.runs_done] at check
    exact ⟨check.1, .inl ⟨_, rfl, check.2⟩⟩
  | some e =>
    simp only [checkCredential, type, block, Program.pure_eq, Program.runs_done] at check
    obtain ⟨rfl, rfl⟩ := check
    refine ⟨rfl, .inr ?_⟩
    unfold CredentialCheck.ofExternalSecret
    split_ifs with store key
    · exact .inl ⟨_, ⟨type, e, block, .inl (by simpa using store)⟩, rfl⟩
    · exact .inl ⟨_, ⟨type, e, block, .inr (by simpa using key)⟩, rfl⟩
    · refine .inr ⟨rfl, ?_, rfl, rfl⟩
      rintro ⟨-, e', block', empty⟩
      obtain rfl := Option.some.inj (block.symm.trans block')
      rcases empty with empty | empty
      · exact store (by simp [empty])
      · exact key (by simp [empty])

/-- A provider that names nowhere is unhealthy for its configuration. -/
lemma refused_of_namesNowhere (nowhere : p.NamesNowhere) (check : (checkCredential p).Runs ds c) :
    ds = [] ∧ c.healthy = false ∧ c.reason = .invalidConfig := by
  obtain ⟨rfl, ⟨_, -, rfl⟩ | ⟨_, -, rfl⟩ | ⟨-, named, -⟩⟩ :=
    checkCredential_externalSecret nowhere.1 check
  · exact ⟨rfl, rfl, rfl⟩
  · exact ⟨rfl, rfl, rfl⟩
  · exact absurd nowhere named

/-- Writing an ExternalSecret succeeds if and only if the provider has the block, whatever the
block says. -/
lemma delegatedSync_undisturbed (attempt : DelegatedSync.Attempt now p g ns es r)
    (hu : Undisturbed es) :
    (p.spec.auth.externalSecret = none ∧ r = .error (.missingConfig p.name)) ∨
      (p.spec.auth.externalSecret.isSome ∧ ∃ result, r = .ok result) := by
  cases attempt with
  | unconfigured h => exact .inl ⟨h, rfl⟩
  | unwritten _ _ _ _ => exact absurd Deed.fails_error (undisturbed_cons.1 hu).1
  | written h _ _ => exact .inr ⟨by simp [h], _, rfl⟩

/-- A provider that names nowhere provides all the same. -/
lemma provisioned_of_namesNowhere (nowhere : p.NamesNowhere)
    (attempt : DelegatedSync.Attempt now p g ns es r) (hu : Undisturbed es) :
    ∃ result, r = .ok result := by
  obtain ⟨-, e, block, -⟩ := nowhere
  rcases delegatedSync_undisturbed attempt hu with ⟨missing, -⟩ | ⟨-, made⟩
  · simp [block] at missing
  · exact made

/-- The check of a place in an external store foretells whether the ExternalSecret is written, if
it is not left open where the value is. -/
lemma foretells_delegatedSync (type : p.spec.auth.type = .externalSecret)
    (named : ¬ p.NamesNowhere) (check : (checkCredential p).Runs ds c)
    (attempt : DelegatedSync.Attempt now p g ns es r) (hu' : Undisturbed es) :
    c.Foretells p r := by
  obtain ⟨-, ⟨message, missing, rfl⟩ | ⟨_, nowhere, -⟩ | ⟨block, -, healthy, reason⟩⟩ :=
    checkCredential_externalSecret type check
  · rcases delegatedSync_undisturbed attempt hu' with ⟨-, rfl⟩ | ⟨block, -⟩
    · constructor <;> simp [CredentialCheck.invalidConfig]
    · simp [missing] at block
  · exact absurd nowhere named
  · rcases delegatedSync_undisturbed attempt hu' with ⟨missing, -⟩ | ⟨-, result, rfl⟩
    · simp [missing] at block
    · constructor <;> simp [healthy, reason]

end

/-! ## Both strategies -/

/-- Over the same objects, an undisturbed check of a provider and an undisturbed attempt to make an
artifact from it, both of which are possible, tell the same: the check changes nothing, and unless
the provider names nowhere it foretells the outcome of the attempt.  A provider that names nowhere
is unhealthy for its configuration, and the attempt succeeds all the same. -/
theorem check_foretells_provisioning (now : Timestamp) (o : Objects) {p : Provider} {g : Grant}
    {ns : String} {s : Strategy} (hns : g.metadata.ns = some ns)
    (hs : Strategy.ofProvider? p = some s) :
    (∃ ds c, (checkCredential p).Runs ds c ∧ o.Allows now ds o ∧ Undisturbed ds) ∧
    (∃ es r o', (s.provision now p g).run.Runs es r ∧ o.Allows now es o' ∧ Undisturbed es) ∧
    ∀ ds c o₁ es r o₂, (checkCredential p).Runs ds c → o.Allows now ds o₁ → Undisturbed ds →
      (s.provision now p g).run.Runs es r → o.Allows now es o₂ → Undisturbed es →
      o₁ = o ∧ (¬ p.NamesNowhere → c.Foretells p r) ∧
        (p.NamesNowhere →
          c.healthy = false ∧ c.reason = .invalidConfig ∧ ∃ result, r = .ok result) := by
  have type := Strategy.ofProvider?_eq_some_iff.1 hs
  have judged : ∀ ds c o₁ es r o₂, (checkCredential p).Runs ds c → o.Allows now ds o₁ →
      Undisturbed ds → (s.provision now p g).run.Runs es r → o.Allows now es o₂ →
      Undisturbed es → o₁ = o ∧ (¬ p.NamesNowhere → c.Foretells p r) ∧
        (p.NamesNowhere →
          c.healthy = false ∧ c.reason = .invalidConfig ∧ ∃ result, r = .ok result) := by
    intro ds c o₁ es r o₂ check ha hu made ha' hu'
    have attempt := Strategy.attempt_of_runs hns made
    cases s with
    | directCopy =>
      obtain ⟨same, foretells⟩ := foretells_directCopy type check ha hu attempt ha' hu'
      exact ⟨same, fun _ => foretells, fun nowhere => by cases type.symm.trans nowhere.1⟩
    | delegatedSync =>
      obtain ⟨rfl, -⟩ := checkCredential_externalSecret type check
      refine ⟨ha, fun named => foretells_delegatedSync type named check attempt hu', ?_⟩
      intro nowhere
      obtain ⟨-, broken, reason⟩ := refused_of_namesNowhere nowhere check
      exact ⟨broken, reason, provisioned_of_namesNowhere nowhere attempt hu'⟩
  obtain ⟨ds, c, o₁, check, ha, hu⟩ := o.exists_undisturbed now (checkCredential p)
  obtain ⟨es, r, o₂, made, ha', hu'⟩ := o.exists_undisturbed now (s.provision now p g).run
  obtain ⟨rfl, -⟩ := judged ds c o₁ es r o₂ check ha hu made ha' hu'
  exact ⟨⟨ds, c, check, ha, hu⟩, ⟨es, r, o₂, made, ha', hu'⟩, judged⟩

/-- The provider of the small cluster is healthy, and provides for the grant. -/
theorem sample_check_foretells_provisioning :
    Sample.grant.metadata.ns = some "team" ∧
      Strategy.ofProvider? Sample.provider = some .directCopy ∧
      ∃ ds c es result, (checkCredential Sample.provider).Runs ds c ∧ Undisturbed ds ∧
        (Strategy.provision .directCopy .epoch Sample.provider Sample.grant).run.Runs es
          (.ok result) ∧ Undisturbed es ∧ c.healthy = true ∧ c.reason = .secretFound := by
  obtain ⟨⟨ds, c, check, ha, hu⟩, ⟨es, r, o', made, ha', hu'⟩, judged⟩ :=
    check_foretells_provisioning .epoch Sample.objects (p := Sample.provider)
      (s := .directCopy) Sample.at_home rfl
  obtain ⟨-, foretells, -⟩ := judged ds c Sample.objects es r o' check ha hu made ha' hu'
  obtain ⟨-, rfl⟩ := checkCredential_apiKey rfl rfl check ha hu
  have held : Sample.objects.secrets[(⟨"platform", "master"⟩ : ObjectKey)]? =
      some Sample.master := by
    simp [Sample.objects]
  have holds : Sample.master.holds "key" = true := by simp [Secret.holds, Sample.master]
  have healthy := (foretells fun nowhere => by cases nowhere.1).healthy
  simp only [SecretKeyReference.secretKey, held] at check healthy
  obtain ⟨result, rfl⟩ := healthy.1 (by simp [CredentialCheck.ofSecret, holds])
  exact ⟨Sample.at_home, rfl, ds, _, es, result, check, hu, made, hu',
    by simp [CredentialCheck.ofSecret, holds], by simp [CredentialCheck.ofSecret, holds]⟩

namespace Sample

/-- The provider has moved to an external store, of which the name was left out. -/
def nowhere : Auth where
  type := .externalSecret
  externalSecret := some {
    store := ⟨"", .clusterSecretStore⟩
    remoteRef := { key := "llm/openai" } }

lemma namesNowhere : (authenticated nowhere).NamesNowhere := ⟨rfl, _, rfl, .inl rfl⟩

end Sample

/-- A provider without the name of its store is checked and found broken, and provides for a grant
at the same time. -/
theorem unhealthy_yet_provisioned :
    ∃ ds c es result o', (checkCredential (Sample.authenticated Sample.nowhere)).Runs ds c ∧
      Sample.objects.Allows .epoch ds Sample.objects ∧ Undisturbed ds ∧
      (Strategy.provision .delegatedSync .epoch (Sample.authenticated Sample.nowhere)
        Sample.grant).run.Runs es (.ok result) ∧
      Sample.objects.Allows .epoch es o' ∧ Undisturbed es ∧
      c.healthy = false ∧ c.reason = .invalidConfig := by
  obtain ⟨ds, c, o₁, check, ha, hu⟩ :=
    Sample.objects.exists_undisturbed .epoch (checkCredential (Sample.authenticated Sample.nowhere))
  obtain ⟨es, r, o', made, ha', hu'⟩ := Sample.objects.exists_undisturbed .epoch
    (Strategy.provision .delegatedSync .epoch (Sample.authenticated Sample.nowhere)
      Sample.grant).run
  obtain ⟨rfl, broken, reason⟩ := refused_of_namesNowhere Sample.namesNowhere check
  obtain rfl := ha
  obtain ⟨result, rfl⟩ := provisioned_of_namesNowhere Sample.namesNowhere
    (Strategy.attempt_of_runs Sample.at_home made) hu'
  exact ⟨[], c, es, result, o', check, rfl, hu, made, ha', hu', broken, reason⟩

end CredentialOperator
