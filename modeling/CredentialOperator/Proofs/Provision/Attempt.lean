import CredentialOperator.Proofs.Cluster.Effects
import CredentialOperator.Proofs.Json.Records
import CredentialOperator.Provision.Strategy

/-!
# Attempts to make and to remove artifacts

The runs of the strategies.  Each strategy goes through its requests in one order and stops at
the first that fails, so a run is told by how far it came: `DirectCopy.Attempt` and
`DelegatedSync.Attempt` list the ways in which an attempt to make an artifact can go,
`Strategy.cleanup_runs` those of removing one, and `Strategy.healthCheck_reads` says that
looking at its health changes nothing.
-/

namespace CredentialOperator

namespace Provisioning

lemma namespaceOf_eq {g : Grant} {ns : String} (h : g.metadata.ns = some ns) :
    Provisioning.namespaceOf g = pure ns := by
  simp [Provisioning.namespaceOf, h]

end Provisioning

/-! ## Copying the master key -/

namespace DirectCopy

/-- What the artifact holds under each key. -/
lemma get?_artifact_eq (p : Provider) (g : Grant) (ns : String) (value : List UInt8)
    (key : String) :
    (artifact p g ns value).get? key =
      if key = providerKey then some (Secret.bytesOf p.spec.provider.text)
      else if key = baseUrlKey then p.spec.baseUrl?.map Secret.bytesOf
      else if key = apiKeyKey then some value
      else none := by
  change (artifactData p value)[key]? = _
  unfold artifactData
  cases p.spec.baseUrl? <;>
    simp only [Std.ExtTreeMap.getElem?_insert, Std.LawfulEqCmp.compare_eq_iff_eq,
      Std.ExtTreeMap.getElem?_empty, eq_comm (a := key), Option.map_none, Option.map_some]
  -- without a base address the two other keys have to be told apart
  split_ifs with _ asked based
  · rfl
  · exact absurd (asked.trans based.symm) (by decide)
  all_goals rfl

/-- The ways in which copying the key of a provider for a grant in a namespace can go. -/
inductive Attempt (now : Timestamp) (p : Provider) (g : Grant) (ns : String) :
    List Deed → Except ProvisionFailure ProvisionResult → Prop where
  /-- The provider lacks the block. -/
  | unconfigured (h : p.spec.auth.apiKey = none) :
      Attempt now p g ns [] (.error (.missingConfig p.name))
  /-- The master Secret cannot be read. -/
  | masterUnread {k : ApiKeyAuth} (h : p.spec.auth.apiKey = some k) (context : String)
      (e : ApiFailure) :
      Attempt now p g ns [.request (.getSecret k.secretRef.secretKey) (.error e)]
        (.error (.cluster context e))
  /-- There is no master Secret. -/
  | masterMissing {k : ApiKeyAuth} (h : p.spec.auth.apiKey = some k) :
      Attempt now p g ns [.request (.getSecret k.secretRef.secretKey) (.ok none)]
        (.error (.sourceSecretNotFound k.secretRef.ns k.secretRef.name))
  /-- The master Secret lacks the declared key. -/
  | keyMissing {k : ApiKeyAuth} {master : Secret} (h : p.spec.auth.apiKey = some k)
      (hm : master.get? k.secretRef.key = none) :
      Attempt now p g ns [.request (.getSecret k.secretRef.secretKey) (.ok (some master))]
        (.error (.sourceKeyMissing k.secretRef.ns k.secretRef.name k.secretRef.key))
  /-- The artifact that is there cannot be read. -/
  | artifactUnread {k : ApiKeyAuth} {master : Secret} {value : List UInt8}
      (h : p.spec.auth.apiKey = some k) (hm : master.get? k.secretRef.key = some value)
      (context : String) (e : ApiFailure) :
      Attempt now p g ns
        [.request (.getSecret k.secretRef.secretKey) (.ok (some master)),
          .request (.getSecret (g.artifactKey ns)) (.error e)]
        (.error (.cluster context e))
  /-- The artifact cannot be written. -/
  | unwritten {k : ApiKeyAuth} {master : Secret} {value : List UInt8}
      (h : p.spec.auth.apiKey = some k) (hm : master.get? k.secretRef.key = some value)
      (old : Option Secret) (context : String) (e : ApiFailure) :
      Attempt now p g ns
        [.request (.getSecret k.secretRef.secretKey) (.ok (some master)),
          .request (.getSecret (g.artifactKey ns)) (.ok old),
          .request (.applySecret (g.artifactKey ns) (artifact p g ns value)) (.error e)]
        (.error (.cluster context e))
  /-- The artifact is written. -/
  | written {k : ApiKeyAuth} {master : Secret} {value : List UInt8}
      (h : p.spec.auth.apiKey = some k) (hm : master.get? k.secretRef.key = some value)
      (old : Option Secret) :
      Attempt now p g ns
        [.request (.getSecret k.secretRef.secretKey) (.ok (some master)),
          .request (.getSecret (g.artifactKey ns)) (.ok old),
          .request (.applySecret (g.artifactKey ns) (artifact p g ns value)) (.ok ())]
        (.ok {
          name := g.spec.secretName
          ns
          keys := (artifactData p value).keys
          needsRotation := p.spec.rotationEnabled && isOlder now rotationCheckAge old
          provisionedAt := now
          facts := facts p k.secretRef.secretKey (g.artifactKey ns) })

lemma attempt_of_runs {now : Timestamp} {p : Provider} {g : Grant} {ns : String}
    {ds : List Deed} {r : Except ProvisionFailure ProvisionResult}
    (hns : g.metadata.ns = some ns) (h : (provision now p g).run.Runs ds r) :
    Attempt now p g ns ds r := by
  unfold provision at h
  cases hk : p.spec.auth.apiKey with
  | none =>
    simp only [hk, runs_throw] at h
    obtain ⟨rfl, rfl⟩ := h
    exact .unconfigured hk
  | some k =>
    simp only [hk, Provisioning.namespaceOf_eq hns, pure_bind] at h
    rcases Provisioning.runs_send_bind.1 h with ⟨e, rfl, rfl⟩ | ⟨master, ds₁, rfl, h₁⟩
    · exact .masterUnread hk _ e
    cases master with
    | none =>
      obtain ⟨rfl, rfl⟩ := runs_throw.1 h₁
      exact .masterMissing hk
    | some master =>
      cases hv : master.get? k.secretRef.key with
      | none =>
        simp only [hv] at h₁
        obtain ⟨rfl, rfl⟩ := runs_throw.1 h₁
        exact .keyMissing hk hv
      | some value =>
        simp only [hv] at h₁
        rcases Provisioning.runs_send_bind.1 h₁ with ⟨e, rfl, rfl⟩ | ⟨old, ds₂, rfl, h₂⟩
        · exact .artifactUnread hk hv _ e
        rcases Provisioning.runs_send_bind.1 h₂ with ⟨e, rfl, rfl⟩ | ⟨⟨⟩, ds₃, rfl, h₃⟩
        · exact .unwritten hk hv old _ e
        obtain ⟨rfl, rfl⟩ := runs_pure.1 h₃
        exact .written hk hv old

end DirectCopy

/-! ## Leaving the copy to the External Secrets Operator -/

/-- The metadata of an ExternalSecret as those of any object. -/
def ExternalSecretMetadata.metadata (m : ExternalSecretMetadata) : Metadata where
  name := some m.name
  ns := some m.ns
  labels := if m.labels.isEmpty then none else some m.labels

/-- The metadata of an ExternalSecret can be read as those of any object. -/
lemma ExternalSecretMetadata.metadata_of_toJson (m : ExternalSecretMetadata) :
    Metadata.ofJson? m.toJson = some m.metadata := by
  have labels : Json.stringMap? (.object (m.labels.toList.map fun e => (e.1, .string e.2))) =
      some m.labels := Json.stringMap?_ofStringMap m.labels
  by_cases h : m.labels.isEmpty
  · simp [Metadata.ofJson?, toJson, metadata, Json.asObject?, h, Json.lenient, Json.occurrences,
      Json.entry, Json.nullable?, Json.string?, Json.asString?]
  · simp [Metadata.ofJson?, toJson, metadata, Json.asObject?, h, Json.lenient, Json.occurrences,
      Json.entry, Json.nullable?, Json.string?, Json.asString?, Json.ofStringMap, labels]

/-- The object for a request can always be built: it has the metadata that were asked for, and
besides them what the ExternalSecret asks for. -/
lemma SyncRequest.build_eq (q : SyncRequest) (ns name : String) (labels : StringMap) :
    q.build ns name labels = .ok {
      type := some ⟨externalSecretApiVersion, externalSecretKindName⟩
      metadata := (ExternalSecretMetadata.mk name ns labels).metadata
      data := Json.normalizeFields []
        [("spec", (q.toExternalSecret ns name labels).spec.toJson)] } := by
  have read := (ExternalSecretMetadata.mk name ns labels).metadata_of_toJson
  simp [SyncRequest.build, DynamicObject.ofJson?, toExternalSecret, ExternalSecret.toJson,
    Json.asObject?, Json.defaulted, Json.single?, Json.occurrences, Json.entry, read,
    TypeName.take]

lemma SyncRequest.build_ok (q : SyncRequest) (ns name : String) (labels : StringMap) :
    ∃ o, q.build ns name labels = .ok o ∧
      o.metadata = (ExternalSecretMetadata.mk name ns labels).metadata :=
  ⟨_, q.build_eq ns name labels, rfl⟩

namespace DelegatedSync

/-- The object that is written for a grant, given the one that was built for its request. -/
def artifact (g : Grant) (built : DynamicObject) : DynamicObject :=
  { built with metadata := { built.metadata with ownerReferences := g.artifactOwners? } }

/-- The ways in which writing the ExternalSecret of a grant in a namespace can go. -/
inductive Attempt (now : Timestamp) (p : Provider) (g : Grant) (ns : String) :
    List Deed → Except ProvisionFailure ProvisionResult → Prop where
  /-- The provider lacks the block. -/
  | unconfigured (h : p.spec.auth.externalSecret = none) :
      Attempt now p g ns [] (.error (.missingConfig p.name))
  /-- The ExternalSecret cannot be written. -/
  | unwritten {c : ExternalSecretAuth} {built : DynamicObject}
      (h : p.spec.auth.externalSecret = some c)
      (hb : (syncRequest c g).build ns g.spec.secretName (g.artifactLabels p) = .ok built)
      (context : String) (e : ApiFailure) :
      Attempt now p g ns
        [.request (.applyDynamic externalSecretKind (g.artifactKey ns) (artifact g built))
          (.error e)]
        (.error (.cluster context e))
  /-- The ExternalSecret is written. -/
  | written {c : ExternalSecretAuth} {built : DynamicObject}
      (h : p.spec.auth.externalSecret = some c)
      (hb : (syncRequest c g).build ns g.spec.secretName (g.artifactLabels p) = .ok built)
      (stored : DynamicObject) :
      Attempt now p g ns
        [.request (.applyDynamic externalSecretKind (g.artifactKey ns) (artifact g built))
          (.ok stored)]
        (.ok {
          name := g.spec.secretName
          ns
          keys := [apiKeyKey]
          needsRotation := false
          provisionedAt := now
          facts := facts p (syncRequest c g) (SyncStatus.ofObject stored) })

lemma attempt_of_runs {now : Timestamp} {p : Provider} {g : Grant} {ns : String}
    {ds : List Deed} {r : Except ProvisionFailure ProvisionResult}
    (hns : g.metadata.ns = some ns) (h : (provision now p g).run.Runs ds r) :
    Attempt now p g ns ds r := by
  unfold provision at h
  cases hc : p.spec.auth.externalSecret with
  | none =>
    simp only [hc, runs_throw] at h
    obtain ⟨rfl, rfl⟩ := h
    exact .unconfigured hc
  | some c =>
    obtain ⟨built, hb, -⟩ := (syncRequest c g).build_ok ns g.spec.secretName (g.artifactLabels p)
    simp only [hc, Provisioning.namespaceOf_eq hns, pure_bind, hb] at h
    -- the request stands behind a `match` on the built object, which has been decided
    change (Provisioning.send _ _ >>= _).run.Runs ds r at h
    rcases Provisioning.runs_send_bind.1 h with ⟨e, rfl, rfl⟩ | ⟨stored, ds₁, rfl, h₁⟩
    · exact .unwritten hc hb _ e
    · obtain ⟨rfl, rfl⟩ := runs_pure.1 h₁
      exact .written hc hb stored

/-- The report on the ExternalSecret of a grant, which may be missing. -/
def reportOn : Option DynamicObject → HealthReport
  | none => .unhealthy "ExternalSecret not found"
  | some object => report (SyncStatus.ofObject object)

/-- Looking at the health of an ExternalSecret is one request. -/
lemma healthCheck_runs {g : Grant} {ns : String} {ds : List Deed}
    {r : Except ProvisionFailure HealthReport} (hns : g.metadata.ns = some ns)
    (h : (healthCheck g).run.Runs ds r) :
    (∃ context e, ds = [.request (.getDynamic externalSecretKind (g.artifactKey ns)) (.error e)] ∧
        r = .error (.cluster context e)) ∨
      ∃ found, ds = [.request (.getDynamic externalSecretKind (g.artifactKey ns)) (.ok found)] ∧
        r = .ok (reportOn found) := by
  simp only [healthCheck, Provisioning.namespaceOf_eq hns, pure_bind] at h
  rcases Provisioning.runs_send_bind.1 h with ⟨e, rfl, rfl⟩ | ⟨found, ds₁, rfl, h₁⟩
  · exact .inl ⟨_, e, rfl, rfl⟩
  · right
    cases found with
    | none =>
      obtain ⟨rfl, rfl⟩ := runs_pure.1 h₁
      exact ⟨none, rfl, rfl⟩
    | some object =>
      obtain ⟨rfl, rfl⟩ := runs_pure.1 h₁
      exact ⟨some object, rfl, rfl⟩

end DelegatedSync

/-! ## Both strategies -/

namespace Strategy

/-- The deed of removing the object that a strategy makes. -/
def removal (s : Strategy) (key : ObjectKey) (outcome : Except ApiFailure Bool) : Deed :=
  match s with
  | .directCopy => .request (.deleteSecret key) outcome
  | .delegatedSync => .request (.deleteDynamic externalSecretKind key) outcome

/-- Removing the artifact of a grant is one request. -/
lemma cleanup_runs {s : Strategy} {g : Grant} {ns : String} {ds : List Deed}
    {r : Except ProvisionFailure Unit} (hns : g.metadata.ns = some ns)
    (h : (s.cleanup g).run.Runs ds r) :
    (∃ context e, ds = [s.removal (g.artifactKey ns) (.error e)] ∧
        r = .error (.cluster context e)) ∨
      ∃ found, ds = [s.removal (g.artifactKey ns) (.ok found)] ∧ r = .ok () := by
  cases s with
  | directCopy =>
    simp only [cleanup, DirectCopy.cleanup, Provisioning.namespaceOf_eq hns, pure_bind] at h
    rcases Provisioning.runs_send_bind.1 h with ⟨e, rfl, rfl⟩ | ⟨found, ds₁, rfl, h₁⟩
    · exact .inl ⟨_, e, rfl, rfl⟩
    · obtain ⟨rfl, rfl⟩ := runs_pure.1 h₁
      exact .inr ⟨found, rfl, rfl⟩
  | delegatedSync =>
    simp only [cleanup, DelegatedSync.cleanup, Provisioning.namespaceOf_eq hns, pure_bind] at h
    rcases Provisioning.runs_send_bind.1 h with ⟨e, rfl, rfl⟩ | ⟨found, ds₁, rfl, h₁⟩
    · exact .inl ⟨_, e, rfl, rfl⟩
    · obtain ⟨rfl, rfl⟩ := runs_pure.1 h₁
      exact .inr ⟨found, rfl, rfl⟩

/-- Looking for the warning about the master Secret only reads. -/
lemma sourceWarnings_reads {p : Provider} {ds : List Deed}
    {r : Except ProvisionFailure (List String)}
    (h : (DirectCopy.sourceWarnings p).run.Runs ds r) : ∀ d ∈ ds, d.Reads := by
  unfold DirectCopy.sourceWarnings at h
  cases hk : p.spec.auth.apiKey with
  | none =>
    simp only [hk, runs_pure] at h
    simp [h.1]
  | some k =>
    simp only [hk, runs_mk, Program.runs_bind] at h
    obtain ⟨ds₁, o, ds₂, h₁, h₂, rfl⟩ := h
    obtain rfl := Program.runs_send.1 h₁
    -- whatever was found there, nothing else is done about it
    have none_left : ds₂ = [] := by
      rcases o with e | _ | master
      · exact (Program.runs_done.1 h₂).1
      · exact (Program.runs_done.1 h₂).1
      · exact (Program.runs_done.1 h₂).1
    subst none_left
    simp [Deed.Reads, Request.reads]

/-- Looking at the health of an artifact only reads. -/
lemma healthCheck_reads {s : Strategy} {now : Timestamp} {p : Provider} {g : Grant} {ns : String}
    {ds : List Deed} {r : Except ProvisionFailure HealthReport} (hns : g.metadata.ns = some ns)
    (h : (s.healthCheck now p g).run.Runs ds r) : ∀ d ∈ ds, d.Reads := by
  cases s with
  | directCopy =>
    simp only [healthCheck, DirectCopy.healthCheck, Provisioning.namespaceOf_eq hns,
      pure_bind] at h
    rcases Provisioning.runs_send_bind.1 h with ⟨e, rfl, rfl⟩ | ⟨secret, ds₁, rfl, h₁⟩
    · simp [Deed.Reads, Request.reads]
    have rest : ∀ d ∈ ds₁, d.Reads := by
      cases secret with
      | none =>
        obtain ⟨rfl, rfl⟩ := runs_pure.1 h₁
        simp
      | some secret =>
        simp only at h₁
        -- a Secret that holds a key leads to a look at the master Secret
        split at h₁
        · rcases runs_run_bind.1 h₁ with ⟨e, h₂, rfl⟩ | ⟨ds₂, warnings, ds₃, h₂, h₃, rfl⟩
          · exact sourceWarnings_reads h₂
          · obtain ⟨rfl, rfl⟩ := runs_pure.1 h₃
            simpa using sourceWarnings_reads h₂
        · obtain ⟨rfl, rfl⟩ := runs_pure.1 h₁
          simp
    intro d hd
    rcases List.mem_cons.1 hd with rfl | hd
    · rfl
    · exact rest d hd
  | delegatedSync =>
    rcases DelegatedSync.healthCheck_runs hns h with ⟨context, e, rfl, -⟩ | ⟨found, rfl, -⟩
    · simp [Deed.Reads, Request.reads]
    · simp [Deed.Reads, Request.reads]

end Strategy

end CredentialOperator
