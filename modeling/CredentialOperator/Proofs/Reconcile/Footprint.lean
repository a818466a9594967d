import CredentialOperator.Proofs.Cluster.Places
import CredentialOperator.Proofs.Http.Messages
import CredentialOperator.Proofs.Http.Talks
import CredentialOperator.Proofs.Reconcile.Custody
import CredentialOperator.Reconcile.Provider

/-!
# What passes touch

Providers choose where the master key is read from, and tenants choose the name of their artifact;
both flow into the requests of a pass.  This file says which requests a pass over a grant can send
at all, with the places that they are about and the metadata of what they apply: it asks for the
provider, and then sends those that `Request.Follows` lists.  `GrantPass.follows_of_runs` shows
along the programs that it sends no others.

What the requests can change follows from the places that they are about.  `Confined` says that
deeds change certain things only, and `writes_confined` puts this together for the passes over
grants and over providers.

The requests go by names, the messages that carry them by URLs, where a mark in a name ends the
path.  So what is written reaches the artifact whose name is what comes before the mark
(`Grant.addressed`): the name of another Secret, if the tenant wants it so
(`foreign_secret_addressed`).
-/

namespace CredentialOperator

/-! ## What belongs to a grant -/

/-- The request is one that a pass over a grant can send once it need not ask for the provider, if
`found` is the provider that the grant refers to. -/
def Request.Follows (g : Grant) (ns : String) (found : Option Provider) : Request → Prop
  | .getNamespaceLabels name => name = ns
  | .patchGrantStatus key _ => key = ⟨ns, g.name⟩
  | .addFinalizer key finalizer | .removeFinalizer key finalizer =>
    key = ⟨ns, g.name⟩ ∧ finalizer = cleanupFinalizer
  | .getSecret key =>
    key = g.artifactKey ns ∨ ∃ p k, found = some p ∧ p.spec.auth.type = .apiKey ∧
      p.spec.auth.apiKey = some k ∧ key = k.secretRef.secretKey
  | .applySecret key s =>
    key = g.artifactKey ns ∧ ∃ p, found = some p ∧ s.metadata = g.artifactMetadata p ns
  | .deleteSecret key => key = g.artifactKey ns
  | .getDynamic kind key | .deleteDynamic kind key =>
    kind = externalSecretKind ∧ key = g.artifactKey ns
  | .applyDynamic kind key object =>
    kind = externalSecretKind ∧ key = g.artifactKey ns ∧
      ∃ p, found = some p ∧ object.metadata = g.artifactMetadata p ns
  | .getProvider _ | .checkSecret _ | .listGrantsOf _ | .listGrants _
  | .patchProviderStatus _ _ => False

/-- The request is one that a pass over a grant can send: it asks for the provider, or may
follow. -/
def Request.Own (g : Grant) (ns : String) (found : Option Provider) (r : Request) : Prop :=
  r = .getProvider g.spec.provider ∨ r.Follows g ns found

/-- The measurement is one that a pass over a grant can take: what it tells of a single grant, it
tells of this one. -/
def Measurement.Own (g : Grant) (ns : String) : Measurement → Prop
  | .credentialAge _ home name _ | .nextRotation _ home name _ => home = ns ∧ name = g.name
  | .providerHealth _ _ _ => False
  | _ => True

/-- The deed is one of a pass over a grant that need not ask for the provider. -/
def Deed.Follows (g : Grant) (ns : String) (found : Option Provider) : Deed → Prop
  | .request r _ => r.Follows g ns found
  | .publish _ => True
  | .measure m => m.Own g ns

/-- The deed is one of a pass over a grant. -/
def Deed.Own (g : Grant) (ns : String) (found : Option Provider) : Deed → Prop
  | .request r _ => r.Own g ns found
  | .publish _ => True
  | .measure m => m.Own g ns

lemma Deed.Follows.own {d : Deed} {g : Grant} {ns : String} {found : Option Provider}
    (h : d.Follows g ns found) : d.Own g ns found := by
  cases d with
  | request r out => exact .inr h
  | publish e => trivial
  | measure m => exact h

lemma artifactLabels_not_isEmpty (provider grant authType : String) :
    (artifactLabels provider grant authType).isEmpty = false := by
  simp [artifactLabels]

section

variable {now : Timestamp} {g : Grant} {ns : String} {p : Provider} {found : Option Provider}
  {s : Strategy} {ds : List Deed}

/-- An ExternalSecret that is applied has the metadata of an artifact, as a Secret has. -/
lemma DelegatedSync.metadata_artifact {c : ExternalSecretAuth} {built : DynamicObject}
    (hb : (syncRequest c g).build ns g.spec.secretName (g.artifactLabels p) = .ok built) :
    (artifact g built).metadata = g.artifactMetadata p ns := by
  obtain ⟨object, ho, metadata⟩ :=
    (syncRequest c g).build_ok ns g.spec.secretName (g.artifactLabels p)
  obtain rfl := Except.ok.inj (hb.symm.trans ho)
  simp [artifact, metadata, ExternalSecretMetadata.metadata, Grant.artifactMetadata,
    Grant.artifactLabels, artifactLabels_not_isEmpty]

lemma Strategy.Attempt.follows {r : Except ProvisionFailure ProvisionResult}
    (h : s.Attempt now p g ns ds r) (hs : Strategy.ofProvider? p = some s) :
    ∀ d ∈ ds, d.Follows g ns (some p) := by
  have type : p.spec.auth.type = s.authType := Strategy.ofProvider?_eq_some_iff.1 hs
  cases s with
  | directCopy =>
    have master : ∀ {k : ApiKeyAuth}, p.spec.auth.apiKey = some k →
        (Request.getSecret k.secretRef.secretKey).Follows g ns (some p) :=
      fun hk => .inr ⟨p, _, rfl, type, hk, rfl⟩
    have before : (Request.getSecret (g.artifactKey ns)).Follows g ns (some p) := .inl rfl
    have applied : ∀ value : List UInt8,
        (Request.applySecret (g.artifactKey ns) (DirectCopy.artifact p g ns value)).Follows g ns
          (some p) :=
      fun value => ⟨rfl, p, rfl, rfl⟩
    cases h with
    | unconfigured _ => simp
    | masterUnread hk _ _ | masterMissing hk | keyMissing hk _ => simp [Deed.Follows, master hk]
    | artifactUnread hk _ _ _ => simp [Deed.Follows, master hk, before]
    | unwritten hk _ _ _ _ | written hk _ _ => simp [Deed.Follows, master hk, before, applied]
  | delegatedSync =>
    cases h with
    | unconfigured _ => simp
    | unwritten _ hb _ _ | written _ hb _ =>
      simp [Deed.Follows, Request.Follows, DelegatedSync.metadata_artifact hb]

lemma Strategy.follows_removal {out : Except ApiFailure Bool} :
    (s.removal (g.artifactKey ns) out).Follows g ns found := by
  cases s
  · exact rfl
  · exact ⟨rfl, rfl⟩

lemma DirectCopy.only_sourceWarnings (type : p.spec.auth.type = .apiKey) :
    (sourceWarnings p).run.Only (Deed.Follows g ns (some p)) := by
  unfold sourceWarnings
  cases hk : p.spec.auth.apiKey with
  | none => exact only_done _
  | some k =>
    refine only_bind (only_send fun _ => .inr ⟨p, k, rfl, type, hk, rfl⟩) fun out => ?_
    rcases out with e | _ | master <;> exact only_done _

lemma DirectCopy.only_healthCheck (hns : g.metadata.ns = some ns)
    (type : p.spec.auth.type = .apiKey) :
    (healthCheck now p g).run.Only (Deed.Follows g ns (some p)) := by
  simp only [healthCheck, Provisioning.namespaceOf_eq hns, pure_bind]
  refine Provisioning.only_send_bind (fun _ => .inl rfl) fun secret => ?_
  cases secret with
  | none => exact only_done _
  | some secret =>
    simp only
    split
    · exact only_run_bind (only_sourceWarnings type) fun _ => only_done _
    · exact only_done _

lemma DelegatedSync.only_healthCheck (hns : g.metadata.ns = some ns) :
    (healthCheck g).run.Only (Deed.Follows g ns found) := by
  simp only [healthCheck, Provisioning.namespaceOf_eq hns, pure_bind]
  refine Provisioning.only_send_bind (fun _ => ⟨rfl, rfl⟩) fun object => ?_
  cases object <;> exact only_done _

lemma Strategy.only_healthCheck (hns : g.metadata.ns = some ns)
    (hs : Strategy.ofProvider? p = some s) :
    (s.healthCheck now p g).run.Only (Deed.Follows g ns (some p)) := by
  cases s with
  | directCopy => exact DirectCopy.only_healthCheck hns (Strategy.ofProvider?_eq_some_iff.1 hs)
  | delegatedSync => exact DelegatedSync.only_healthCheck hns

end

namespace GrantPass

variable {now : Timestamp} {g : Grant} {ns : String} {p : Provider} {found : Option Provider}
  {ds : List Deed} {r : Except ReconcileFailure Action} {o o' : Objects}

lemma only_updateStatus_bind {s : GrantStatus} {f : Bool → Pass Action}
    (rest : ∀ written, (f written).run.Only (Deed.Follows g ns found)) :
    (updateStatus g ns s >>= f).run.Only (Deed.Follows g ns found) := by
  unfold updateStatus
  split
  · exact rest false
  · rw [bind_assoc]
    exact Pass.only_send_bind (fun _ => rfl) fun _ => rest true

lemma only_reject (rej : Rejection) :
    (reject now g ns rej).run.Only (Deed.Follows g ns found) := by
  refine only_updateStatus_bind fun written => ?_
  cases written with
  | false => exact Pass.only_note_bind trivial (only_done _)
  | true => exact Pass.only_emit_bind trivial (Pass.only_note_bind trivial (only_done _))

lemma only_onFailed (f : ProvisionFailure) :
    (onFailed now g ns f).run.Only (Deed.Follows g ns found) := by
  refine Pass.only_note_bind trivial (Pass.only_note_bind trivial ?_)
  refine only_updateStatus_bind fun written => ?_
  cases written with
  | false => exact Pass.only_note_bind trivial (only_done _)
  | true => exact Pass.only_emit_bind trivial (Pass.only_note_bind trivial (only_done _))

lemma only_close {s : Strategy} (hns : g.metadata.ns = some ns)
    (hs : Strategy.ofProvider? p = some s) :
    (close now g ns p s).run.Only (Deed.Follows g ns (some p)) := by
  refine Pass.only_note_bind trivial (Pass.only_note_bind trivial ?_)
  refine Pass.only_note_bind ⟨rfl, rfl⟩ ?_
  -- whether a rotation is ahead or not, the health is looked at last
  have looked : ∀ a : Action, (do
      let _ ← ExceptT.lift (s.healthCheck now p g).run
      pure a : Pass Action).run.Only (Deed.Follows g ns (some p)) :=
    fun a => only_lift_bind (Strategy.only_healthCheck hns hs) fun _ => only_done _
  cases (rotationOf now g p).next with
  | none => exact looked _
  | some next => exact Pass.only_note_bind ⟨rfl, rfl⟩ (looked _)

lemma only_onProvisioned {s : Strategy} (hns : g.metadata.ns = some ns)
    (hs : Strategy.ofProvider? p = some s) (result : ProvisionResult) :
    (onProvisioned now g ns p s result).run.Only (Deed.Follows g ns (some p)) := by
  have told : (tell now g ns p s result).run.Only (Deed.Follows g ns (some p)) := by
    refine only_updateStatus_bind fun written => ?_
    cases written with
    | false => exact only_close hns hs
    | true =>
      simp only [if_true]
      split
      · exact Pass.only_emit_bind trivial (only_close hns hs)
      · exact only_close hns hs
  rw [onProvisioned_eq]
  split
  · exact Pass.only_note_bind trivial told
  · exact told

lemma only_provision {s : Strategy} (hns : g.metadata.ns = some ns)
    (hs : Strategy.ofProvider? p = some s) :
    (provision now g ns p s).run.Only (Deed.Follows g ns (some p)) := by
  refine only_lift_bind (fun ds outcome h => (Strategy.attempt_of_runs hns h).follows hs)
    fun outcome => ?_
  cases outcome with
  | ok result => exact only_onProvisioned hns hs result
  | error f => exact only_onFailed f

/-- The deeds begin with the question for the provider, and what follows belongs to what was
found. -/
def AsksFirst (g : Grant) (ns : String) (ds : List Deed) : Prop :=
  ∃ out rest, ds = .request (.getProvider g.spec.provider) out :: rest ∧
    ∀ found, (∀ x, out = .ok x → x = found) → ∀ d ∈ rest, d.Follows g ns found

/-- Whoever serves a grant asks for its provider first. -/
lemma asksFirst_of_serve (hns : g.metadata.ns = some ns) (h : (serve now g ns).run.Runs ds r) :
    AsksFirst g ns ds := by
  rcases Pass.runs_send_bind.1 h with ⟨e, rfl, -⟩ | ⟨x, es, rfl, rest⟩
  · exact ⟨_, [], rfl, by simp⟩
  refine ⟨_, es, rfl, fun found same => ?_⟩
  obtain rfl := same x rfl
  cases x with
  | none => exact only_reject _ _ _ rest
  | some p =>
    refine Pass.only_send_bind (fun _ => rfl) (fun labels => ?_) _ _ rest
    cases gate : g.gate ns p labels with
    | error rej => exact only_reject rej
    | ok s => exact only_provision hns (Grant.gate_ok_iff.1 gate).2.2

lemma Releasing.asksFirst (h : Releasing g ns ds r) : AsksFirst g ns ds := by
  have left : ∀ found, (Request.removeFinalizer ⟨ns, g.name⟩ cleanupFinalizer).Follows g ns found :=
    fun _ => ⟨rfl, rfl⟩
  cases h with
  | providerUnread e => exact ⟨_, [], rfl, by simp⟩
  | unserved hs => exact ⟨_, _, rfl, by simp [Deed.Follows, left]⟩
  | unremoved hs context e =>
    refine ⟨_, _, rfl, fun found _ => ?_⟩
    simp only [List.forall_mem_cons]
    exact ⟨Strategy.follows_removal, trivial, by simp⟩
  | removed hs was o =>
    refine ⟨_, _, rfl, fun found _ => ?_⟩
    simp only [List.forall_mem_cons]
    exact ⟨Strategy.follows_removal, trivial, left found, by simp⟩

lemma follows_endDeeds : ∀ d ∈ Pass.endDeeds .grants r, d.Follows g ns found := by
  cases r <;> simp [Pass.endDeeds, Deed.Follows, Measurement.Own]

/-- A pass over a grant asks for the provider first if it asks at all, and sends no requests but
those of the grant. -/
theorem follows_of_runs (hns : g.metadata.ns = some ns)
    (h : (reconcileGrant now g).run.Runs ds r) :
    (∀ found, ∀ d ∈ ds, d.Follows g ns found) ∨ AsksFirst g ns ds := by
  obtain ⟨es, runs, rfl⟩ := Pass.runs_measured.1 h
  have ended : AsksFirst g ns es → AsksFirst g ns (es ++ Pass.endDeeds .grants r) := by
    rintro ⟨out, rest, rfl, follows⟩
    refine ⟨out, rest ++ Pass.endDeeds .grants r, rfl, fun found same => ?_⟩
    exact List.forall_mem_append.2 ⟨follows found same, follows_endDeeds⟩
  simp only [body, hns] at runs
  split at runs
  · cases hf : hasFinalizer g with
    | true => exact .inr (ended (releasing_of_runs hns hf runs).asksFirst)
    | false =>
      simp only [release, hf, Bool.false_eq_true, if_false, runs_pure] at runs
      obtain ⟨rfl, -⟩ := runs
      exact .inl fun found => follows_endDeeds
  · split at runs
    · exact .inr (ended (asksFirst_of_serve hns runs))
    · refine .inl fun found => List.forall_mem_append.2 ⟨?_, follows_endDeeds⟩
      exact Pass.only_send_bind (fun _ => ⟨rfl, rfl⟩) (fun _ => only_done _) _ _ runs

/-- What a pass finds is the provider that the cluster holds. -/
lemma own_of_follows
    (follows : (∀ found, ∀ d ∈ ds, d.Follows g ns found) ∨ AsksFirst g ns ds)
    (ha : o.Allows now ds o') : ∀ d ∈ ds, d.Own g ns o.providers[g.spec.provider]? := by
  rcases follows with follows | ⟨out, rest, rfl, follows⟩
  · exact fun d hd => (follows _ d hd).own
  · refine List.forall_mem_cons.2 ⟨.inl rfl, fun d hd => (follows _ (fun x ok => ?_) d hd).own⟩
    subst ok
    exact ha.1.symm

/-- A pass over a grant without a namespace sends no requests at all. -/
lemma follows_of_pass (h : (reconcileGrant now g).run.Runs ds r) :
    (∀ found, ∀ d ∈ ds, d.Follows g g.key.ns found) ∨ AsksFirst g g.key.ns ds := by
  cases hns : g.metadata.ns with
  | some ns =>
    have home : g.key.ns = ns := congrArg ObjectKey.ns (Grant.key_eq hns)
    rw [home]
    exact follows_of_runs hns h
  | none =>
    obtain ⟨es, served, rfl⟩ := Pass.runs_measured.1 h
    simp only [body, hns, runs_throw] at served
    obtain ⟨rfl, -⟩ := served
    exact .inl fun found => follows_endDeeds

lemma own_of_pass (h : (reconcileGrant now g).run.Runs ds r) (ha : o.Allows now ds o') :
    ∀ d ∈ ds, d.Own g g.key.ns o.providers[g.spec.provider]? :=
  own_of_follows (follows_of_pass h) ha

end GrantPass

/-! ## What is changed -/

/-- Something that a request can change. -/
inductive Subject where
  /-- The status of a grant. -/
  | grantStatus (key : ObjectKey)
  /-- The finalizers of a grant. -/
  | finalizers (key : ObjectKey)
  /-- The status of a provider. -/
  | providerStatus (name : String)
  /-- A Secret. -/
  | secret (key : ObjectKey)
  /-- An object of another kind. -/
  | object (kind : ResourceKind) (key : ObjectKey)

/-- The place where something stands that a request can change. -/
def Subject.place : Subject → Place
  | .grantStatus key | .finalizers key => .grant key
  | .providerStatus name => .provider name
  | .secret key => .secret key
  | .object _ key => .other key

/-- The path to which the messages go that change something. -/
def Subject.path : Subject → String
  | .grantStatus key => Paths.grant key ++ "/status"
  | .finalizers key => Paths.grant key
  | .providerStatus name => Paths.provider name ++ "/status"
  | .secret key => Paths.secret key
  | .object kind key => Paths.dynamic kind key

namespace Request

/-- What a request changes, unless it only reads. -/
def subject? : Request → Option Subject
  | .patchGrantStatus key _ => some (.grantStatus key)
  | .patchProviderStatus name _ => some (.providerStatus name)
  | .addFinalizer key _ | .removeFinalizer key _ => some (.finalizers key)
  | .applySecret key _ | .deleteSecret key => some (.secret key)
  | .applyDynamic kind key _ | .deleteDynamic kind key => some (.object kind key)
  | .getProvider _ | .getNamespaceLabels _ | .checkSecret _ | .listGrantsOf _ | .listGrants _
  | .getSecret _ | .getDynamic _ _ => none

/-- The metadata of the object that a request applies. -/
def applied? : Request → Option Metadata
  | .applySecret _ s => some s.metadata
  | .applyDynamic _ _ object => some object.metadata
  | _ => none

variable {q : Request}

lemma reads_or_subject (q : Request) :
    q.reads = true ∨ ∃ s, q.subject? = some s ∧ q.place? = some s.place := by
  cases q <;> simp [reads, subject?, place?, Subject.place]

/-- Of the messages that carry a request, those that do not only read are about what the request
changes, as far as its path reaches. -/
lemma sends_subject {m : HttpMessage} (h : q.converse.run.Sends m) :
    m.method = .get ∨ ∃ s, q.subject? = some s ∧ m.path = Paths.reached s.path := by
  have quiet : ∀ {α : Type} (a : α), ¬ (pure a : Conversation α).run.Sends m := fun _ => id
  cases q with
  | getProvider _ | getNamespaceLabels _ | checkSecret _ | getSecret _ | getDynamic _ _ =>
    exact .inl (Conversation.sends_get? h)
  | listGrants ns => exact .inl (Conversation.sends_list h)
  | listGrantsOf provider =>
    exact .inl (Conversation.sends_list ((Conversation.sends_bind fun _ => quiet _).1 h))
  | patchGrantStatus key status | patchProviderStatus name status =>
    have merged := (Conversation.sends_bind fun _ => quiet ()).1 h
    exact .inr ⟨_, rfl, Conversation.path_of_sends_merge merged⟩
  | addFinalizer key _ | removeFinalizer key _ =>
    exact (sends_editFinalizers h).imp id fun path => ⟨_, rfl, path⟩
  | applySecret key s =>
    have asked := (Conversation.sends_bind fun _ => quiet ()).1 h
    exact .inr ⟨_, rfl, Conversation.path_of_sends_apply asked⟩
  | applyDynamic kind key object => exact .inr ⟨_, rfl, Conversation.path_of_sends_apply h⟩
  | deleteSecret key | deleteDynamic kind key =>
    exact .inr ⟨_, rfl, Conversation.path_of_sends_delete h⟩

end Request

/-- Deeds that lead from one cluster to another change nothing but certain subjects: no request is
about any other, a message that could change anything is sent to the path of one of them, as far
as this is reached, and in a cluster that goes by the names in the requests what stands elsewhere
is left as it was. -/
structure Confined (subjects : List Subject) (ds : List Deed) (o o' : Objects) : Prop where
  asks : ∀ q out s, .request q out ∈ ds → q.subject? = some s → s ∈ subjects
  messages : ∀ q out m, .request q out ∈ ds → q.converse.run.Sends m →
    m.method = .get ∨ ∃ s ∈ subjects, q.subject? = some s ∧ m.path = Paths.reached s.path
  frame : ∀ x, (∀ s ∈ subjects, x ≠ s.place) → o'.content x = o.content x

/-- It is enough to look at the requests. -/
lemma Confined.of_asks {now : Timestamp} {subjects : List Subject} {ds : List Deed}
    {o o' : Objects} (ha : o.Allows now ds o')
    (asks : ∀ q out s, .request q out ∈ ds → q.subject? = some s → s ∈ subjects) :
    Confined subjects ds o o' where
  asks := asks
  messages q out m hd sent := by
    refine (q.sends_subject sent).imp id ?_
    rintro ⟨s, hs, path⟩
    exact ⟨s, asks q out s hd hs, hs, path⟩
  frame x elsewhere := by
    refine Objects.content_kept (fun d hd => ?_) ha
    cases d with
    | request q out =>
      rcases q.reads_or_subject with reads | ⟨s, hs, place⟩
      · exact .inl reads
      · exact .inr fun here =>
          elsewhere s (asks q out s hd hs) (Option.some.inj (here.symm.trans place))
    | publish e => trivial
    | measure m => trivial

/-- What a pass over a grant may change: its status, its finalizers, and its artifact in either
form. -/
def Grant.subjects (g : Grant) : List Subject :=
  [.grantStatus g.key, .finalizers g.key, .secret (g.artifactKey g.key.ns),
    .object externalSecretKind (g.artifactKey g.key.ns)]

/-- A grant as the messages about it have it, which reach the artifact by the name before the first
mark. -/
def Grant.addressed (g : Grant) : Grant :=
  { g with spec.secretName := Paths.reached g.spec.secretName }

/-- A grant differs from what it was in its status and in the operator's finalizer at most. -/
structure Grant.Attended (g g' : Grant) : Prop where
  rest : { g' with metadata.finalizers := g.metadata.finalizers, status := g.status } = g
  finalizers : g'.finalizers.filter (· ≠ cleanupFinalizer) =
    g.finalizers.filter (· ≠ cleanupFinalizer)

/-- The metadata are those of the artifact of a grant for a provider: its place, the four labels,
and the grant, once it is known by an identifier, as the only owner. -/
structure Metadata.OfArtifact (m : Metadata) (g : Grant) (p : Provider) : Prop where
  name : m.name = some g.spec.secretName
  ns : m.ns = some g.key.ns
  labels : ∃ l, m.labels = some l ∧ l[managedByLabel]? = some managedByValue ∧
    l[providerLabel]? = some p.name ∧ l[grantLabel]? = some g.name ∧
    l[authTypeLabel]? = some p.spec.auth.type.text ∧
    ∀ key ∉ [managedByLabel, providerLabel, grantLabel, authTypeLabel], l[key]? = none
  owner : ∀ uid, g.metadata.uid = some uid → ∃ ref, m.ownerReferences = some [ref] ∧
    ref.uid = uid ∧ ref.controller = some true ∧ ref.apiVersion = operatorApiVersion ∧
    ref.kind = grantKind ∧ ref.name = g.name

lemma getElem?_artifactLabels (provider grant authType key : String) :
    (artifactLabels provider grant authType)[key]? =
      if authTypeLabel = key then some authType
      else if grantLabel = key then some grant
      else if providerLabel = key then some provider
      else if managedByLabel = key then some managedByValue
      else none := by
  simp [artifactLabels, Std.ExtTreeMap.getElem?_insert]

lemma Grant.ofArtifact_artifactMetadata (g : Grant) (p : Provider) :
    (g.artifactMetadata p g.key.ns).OfArtifact g p where
  name := rfl
  ns := rfl
  labels := by
    refine ⟨CredentialOperator.artifactLabels p.name g.name p.spec.auth.type.text, rfl, ?_⟩
    simp only [getElem?_artifactLabels, List.mem_cons, List.not_mem_nil, or_false, not_or]
    refine ⟨rfl, rfl, rfl, rfl, ?_⟩
    rintro key ⟨managedBy, provider, grant, authType⟩
    simp only [if_neg (Ne.symm managedBy), if_neg (Ne.symm provider), if_neg (Ne.symm grant),
      if_neg (Ne.symm authType)]
  owner uid known := by
    have owners : g.artifactOwners? = some [{
        apiVersion := operatorApiVersion, kind := grantKind, name := g.name, uid,
        controller := some true, blockOwnerDeletion := some true }] := by
      simp [artifactOwners?, OwnerReference.controllerOf?, known, Grant.name]
    exact ⟨_, owners, rfl, rfl, rfl, rfl, rfl⟩

/-! ## What is reached -/

/-- The messages are about the artifact itself exactly if its name has no mark. -/
lemma Grant.addressed_eq_iff {g : Grant} :
    g.addressed = g ↔ Paths.Unmarked g.spec.secretName := by
  rw [← Paths.reached_eq_iff]
  constructor
  · exact congrArg fun h : Grant => h.spec.secretName
  · intro whole
    rw [addressed, whole]

/-- If the grant itself has a proper name, what is sent about one of its subjects reaches that
subject, under the name that is left of the artifact's. -/
lemma Grant.reached_subject {g : Grant} {s : Subject} (ns : Paths.Unmarked g.key.ns)
    (name : Paths.Unmarked g.key.name) (hs : s ∈ g.subjects) :
    ∃ s' ∈ g.addressed.subjects, Paths.reached s.path = s'.path := by
  have home : Paths.Unmarked (Paths.grant g.key) := Paths.unmarked_grant.2 ⟨ns, name⟩
  have status : Paths.Unmarked (Paths.grant g.key ++ "/status") :=
    Paths.unmarked_append.2 ⟨home, by decide⟩
  have listed : g.addressed.subjects = [.grantStatus g.key, .finalizers g.key,
    .secret (g.addressed.artifactKey g.key.ns),
    .object externalSecretKind (g.addressed.artifactKey g.key.ns)] := rfl
  simp only [subjects, List.mem_cons, List.not_mem_nil, or_false] at hs
  rcases hs with rfl | rfl | rfl | rfl
  · exact ⟨.grantStatus g.key, by simp [listed], Paths.reached_eq_iff.2 status⟩
  · exact ⟨.finalizers g.key, by simp [listed], Paths.reached_eq_iff.2 home⟩
  · exact ⟨.secret (g.addressed.artifactKey g.key.ns), by simp [listed], Paths.reached_secret ns⟩
  · exact ⟨.object externalSecretKind (g.addressed.artifactKey g.key.ns), by simp [listed],
      Paths.reached_dynamic (by decide) ns⟩

/-! ## Passes over grants -/

namespace Request

variable {q : Request} {g : Grant} {found : Option Provider}

lemma Own.mem_subjects {s : Subject} (own : q.Own g g.key.ns found) (hs : q.subject? = some s) :
    s ∈ g.subjects := by
  rcases own with rfl | own
  · cases hs
  · cases q <;> simp_all [Follows, subject?, Grant.subjects, Grant.key, Metadata.key, Grant.name]

lemma Own.applied {m : Metadata} (own : q.Own g g.key.ns found) (hm : q.applied? = some m) :
    ∃ p, found = some p ∧ m.OfArtifact g p := by
  have marked : ∀ {p : Provider}, m = g.artifactMetadata p g.key.ns → m.OfArtifact g p := by
    rintro p rfl
    exact g.ofArtifact_artifactMetadata p
  rcases own with rfl | own
  · cases hm
  cases q with
  | applySecret key s =>
    obtain ⟨-, p, hp, metadata⟩ := own
    exact ⟨p, hp, marked ((Option.some.inj hm).symm.trans metadata)⟩
  | applyDynamic kind key object =>
    obtain ⟨-, -, p, hp, metadata⟩ := own
    exact ⟨p, hp, marked ((Option.some.inj hm).symm.trans metadata)⟩
  | _ => cases hm

end Request

namespace Grant.Attended

lemma refl (g : Grant) : g.Attended g := ⟨rfl, rfl⟩

lemma trans {g g' g'' : Grant} (h : g.Attended g') (h' : g'.Attended g'') : g.Attended g'' where
  rest := by
    have first := h.rest
    have second := h'.rest
    rw [← second] at first
    exact first
  finalizers := h'.finalizers.trans h.finalizers

lemma withStatus (g : Grant) (s : GrantStatus) : g.Attended { g with status := some s } :=
  ⟨rfl, rfl⟩

lemma withFinalizer (g : Grant) : g.Attended (Objects.withFinalizer cleanupFinalizer g) := by
  unfold Objects.withFinalizer
  split
  · exact refl g
  · exact ⟨rfl, by simp [Grant.finalizers]⟩

lemma withoutFinalizer (g : Grant) : g.Attended (Objects.withoutFinalizer cleanupFinalizer g) := by
  refine ⟨rfl, ?_⟩
  cases hf : g.metadata.finalizers <;> simp [Grant.finalizers, Objects.withoutFinalizer, hf]

end Grant.Attended

/-- A grant that is changed somewhere is attended to there. -/
lemma Objects.attended_modifyGrant (o : Objects) (key key' : ObjectKey) {f : Grant → Grant}
    (attends : ∀ g : Grant, g.Attended (f g)) :
    ∃ change, (∀ g : Grant, g.Attended (change g)) ∧
      (o.modifyGrant key' f).grants[key]? = o.grants[key]?.map change := by
  by_cases same : key' = key
  · exact ⟨f, attends, by simp [modifyGrant, same]⟩
  · exact ⟨id, .refl, by simp [modifyGrant, Std.ExtTreeMap.getElem?_modify, same]⟩

lemma Objects.attended_answer {now : Timestamp} {o : Objects} {q : Request} {g : Grant}
    {ns : String} {found : Option Provider} (own : q.Own g ns found) (key : ObjectKey) :
    ∃ change, (∀ g : Grant, g.Attended (change g)) ∧
      (o.answer now q).2.grants[key]? = o.grants[key]?.map change := by
  rcases own with rfl | own
  · exact ⟨id, .refl, by simp [answer]⟩
  cases q with
  | patchGrantStatus key' s => exact o.attended_modifyGrant key key' fun g => .withStatus g s
  | addFinalizer key' finalizer =>
    obtain ⟨-, rfl⟩ := own
    exact o.attended_modifyGrant key key' .withFinalizer
  | removeFinalizer key' finalizer =>
    obtain ⟨-, rfl⟩ := own
    exact o.attended_modifyGrant key key' .withoutFinalizer
  | _ => exact ⟨id, .refl, by simp [answer]⟩

namespace GrantPass

variable {now : Timestamp} {g : Grant} {ds : List Deed} {r : Except ReconcileFailure Action}
  {o o' : Objects}

/-- What stands at the place of a grant is attended to by deeds of the grant. -/
lemma attended_of_pass (h : (reconcileGrant now g).run.Runs ds r) (ha : o.Allows now ds o') :
    ∃ change, (∀ g : Grant, g.Attended (change g)) ∧
      o'.grants[g.key]? = o.grants[g.key]?.map change := by
  have own := own_of_pass h ha
  refine Objects.content_related (x := .grant g.key)
    (R := fun a b => ∃ change, (∀ g : Grant, g.Attended (change g)) ∧ b = a.map change)
    (fun a => ⟨id, .refl, by simp⟩) ?_ (fun q out o hd => Objects.attended_answer (own _ hd) _) ha
  rintro a b c ⟨change, attends, rfl⟩ ⟨change', attends', rfl⟩
  exact ⟨change' ∘ change, fun g => (attends g).trans (attends' _), by simp⟩

end GrantPass

/-! ## Passes over providers -/

namespace ProviderPass

variable {now : Timestamp} {p : Provider} {ds : List Deed}
  {r : Except ReconcileFailure Action} {o o' : Objects}

/-- The deed is one of a pass over a provider: as a request it looks at a Secret or counts the
grants, or writes the status. -/
def Own (p : Provider) : Deed → Prop
  | .request q _ => (∃ key, q = .checkSecret key) ∨ q = .listGrantsOf p.name ∨
      ∃ s, q = .patchProviderStatus p.name s
  | _ => True

lemma only_checkCredential : (checkCredential p).Only (Own p) := by
  unfold checkCredential
  cases p.spec.auth.type with
  | apiKey =>
    cases p.spec.auth.apiKey with
    | none => exact only_done _
    | some auth => exact only_bind (only_send fun _ => .inl ⟨_, rfl⟩) fun _ => only_done _
  | externalSecret => cases p.spec.auth.externalSecret <;> exact only_done _
  | workloadIdentity => exact only_done _

/-- A pass over a provider reads, and writes nothing but the status of the provider. -/
theorem only_reconcileProvider : (reconcileProvider now p).run.Only (Own p) := by
  refine Pass.only_measured ?_ fun r => by cases r <;> simp [Pass.endDeeds, Own]
  refine only_lift_bind only_checkCredential fun check => ?_
  refine Pass.only_note_bind trivial ?_
  refine only_lift_bind (only_send fun _ => .inr (.inl rfl)) fun grants => ?_
  simp only
  split
  -- whether the status is written or not, an event may follow
  on_goal 1 => refine Pass.only_send_bind (fun _ => .inr (.inr ⟨_, rfl⟩)) fun _ => ?_
  all_goals
    cases event? p check with
    | none => exact only_done _
    | some e => exact Pass.only_emit_bind trivial (only_done _)

/-- What stands at the place of a provider differs in its status at most. -/
lemma status_of_pass (h : (reconcileProvider now p).run.Runs ds r) (ha : o.Allows now ds o') :
    ∃ change, (∀ q : Provider, ∃ status, change q = { q with status }) ∧
      o'.providers[p.name]? = o.providers[p.name]?.map change := by
  have own := only_reconcileProvider ds r h
  refine Objects.content_related (x := .provider p.name)
    (R := fun a b => ∃ change, (∀ q : Provider, ∃ status, change q = { q with status }) ∧
      b = a.map change)
    (fun a => ⟨id, fun q => ⟨q.status, rfl⟩, by simp⟩) ?_ (fun q out o hd => ?_) ha
  · rintro a b c ⟨change, alters, rfl⟩ ⟨change', alters', rfl⟩
    refine ⟨change' ∘ change, fun q => ?_, by simp⟩
    obtain ⟨status, hs⟩ := alters q
    obtain ⟨status', hs'⟩ := alters' (change q)
    exact ⟨status', by rw [Function.comp_apply, hs', hs]⟩
  · rcases own _ hd with ⟨key, rfl⟩ | rfl | ⟨s, rfl⟩
    · exact ⟨id, fun q => ⟨q.status, rfl⟩, by simp [Objects.answer]⟩
    · exact ⟨id, fun q => ⟨q.status, rfl⟩, by simp [Objects.answer]⟩
    · exact ⟨fun q => { q with status := some s }, fun q => ⟨_, rfl⟩,
        by simp [Objects.answer, Objects.content]⟩

end ProviderPass

/-- A pass over a grant changes nothing but the status and the finalizers of the grant and its
artifact, whatever the cluster holds and whichever requests fail; of the finalizers it adds and
removes the operator's own alone, and each object that it applies bears the name, the namespace, the
labels and the owner of the artifact for the provider that the grant refers to.  A pass over a
provider changes nothing but the status of the provider.

This is so for a cluster that goes by the names in the requests.  A server goes by the paths that
the messages reach, and what is written to something reaches its path exactly if there is no mark in
this.  Otherwise the name of the artifact is cut at its first mark, and the messages reach what
bears the name that is left. -/
theorem writes_confined {now : Timestamp} {ds : List Deed} {r : Except ReconcileFailure Action}
    {o o' : Objects} (allowed : o.Allows now ds o') :
    (∀ g, (reconcileGrant now g).run.Runs ds r →
      Confined g.subjects ds o o' ∧
      (∃ change, (∀ h : Grant, h.Attended (change h)) ∧
        o'.grants[g.key]? = o.grants[g.key]?.map change) ∧
      (∀ q out m, .request q out ∈ ds → q.applied? = some m →
        ∃ p, o.providers[g.spec.provider]? = some p ∧ m.OfArtifact g p) ∧
      (∀ q out s m, .request q out ∈ ds → q.subject? = some s → q.converse.run.Sends m →
        m.method = .get ∨ (m.path = s.path ↔ Paths.Unmarked s.path)) ∧
      (Paths.Unmarked g.key.ns → Paths.Unmarked g.key.name →
        ∀ q out m, .request q out ∈ ds → q.converse.run.Sends m →
          m.method = .get ∨ ∃ s ∈ g.addressed.subjects, m.path = s.path) ∧
      (g.addressed = g ↔ Paths.Unmarked g.spec.secretName)) ∧
    ∀ p, (reconcileProvider now p).run.Runs ds r →
      Confined [.providerStatus p.name] ds o o' ∧
      (∃ change, (∀ q : Provider, ∃ status, change q = { q with status }) ∧
        o'.providers[p.name]? = o.providers[p.name]?.map change) ∧
      ∀ q out m, .request q out ∈ ds → q.converse.run.Sends m →
        m.method = .get ∨
          (m.path = (Subject.providerStatus p.name).path ↔ Paths.Unmarked p.name) := by
  constructor
  · intro g runs
    have own := GrantPass.own_of_pass runs allowed
    have confined : Confined g.subjects ds o o' :=
      .of_asks allowed fun q out s hd hs => Request.Own.mem_subjects (own _ hd) hs
    refine ⟨confined, GrantPass.attended_of_pass runs allowed, fun q out m hd hm => ?_,
      fun q out s m hd hs sent => ?_, fun ns name q out m hd sent => ?_, Grant.addressed_eq_iff⟩
    · exact Request.Own.applied (own _ hd) hm
    · refine (confined.messages q out m hd sent).imp id ?_
      rintro ⟨s', -, hs', path⟩
      obtain rfl := Option.some.inj (hs.symm.trans hs')
      rw [path, Paths.reached_eq_iff]
    · refine (confined.messages q out m hd sent).imp id ?_
      rintro ⟨s, hs, -, path⟩
      obtain ⟨s', hs', reached⟩ := Grant.reached_subject ns name hs
      exact ⟨s', hs', path.trans reached⟩
  · intro p runs
    have own := ProviderPass.only_reconcileProvider ds r runs
    have confined : Confined [.providerStatus p.name] ds o o' := by
      refine .of_asks allowed fun q out s hd hs => ?_
      rcases own _ hd with ⟨key, rfl⟩ | rfl | ⟨status, rfl⟩
      · cases hs
      · cases hs
      · exact List.mem_singleton.2 (Option.some.inj hs).symm
    refine ⟨confined, ProviderPass.status_of_pass runs allowed, fun q out m hd sent => ?_⟩
    have suffix : Paths.Unmarked "/status" := by decide
    refine (confined.messages q out m hd sent).imp id ?_
    rintro ⟨s, hs, -, path⟩
    obtain rfl := List.mem_singleton.1 hs
    rw [path, Paths.reached_eq_iff, Subject.path, Paths.unmarked_append, Paths.unmarked_provider,
      and_iff_left suffix]

/-- In the small cluster, the pass over the grant applies an object that bears the marks of its
artifact and is sent to its path, and neither this pass nor one over the provider goes beyond its
own. -/
theorem sample_writes_confined :
    (∃ ds r o', (reconcileGrant .epoch Sample.known).run.Runs ds r ∧
      Sample.objects.Allows .epoch ds o' ∧ Confined Sample.known.subjects ds Sample.objects o' ∧
      ∃ q out metadata, .request q out ∈ ds ∧ q.applied? = some metadata ∧
        metadata.OfArtifact Sample.known Sample.provider ∧
        ∀ m, q.converse.run.Sends m →
          m.method = .get ∨ ∃ s ∈ Sample.known.subjects, m.path = s.path) ∧
    ∃ ds r o', (reconcileProvider .epoch Sample.provider).run.Runs ds r ∧
      Sample.objects.Allows .epoch ds o' ∧
      Confined [.providerStatus "openai"] ds Sample.objects o' := by
  constructor
  · obtain ⟨ds, r, o', runs, allowed, made⟩ := Sample.known_served
    obtain ⟨confined, -, marks, -, reached, whole⟩ := (writes_confined allowed).1 _ runs
    obtain ⟨p, found, marked⟩ := marks _ _ _ made rfl
    have stored : Sample.objects.providers["openai"]? = some Sample.provider := by
      simp [Sample.objects]
    obtain rfl := Option.some.inj (stored.symm.trans found)
    rw [whole.2 (by decide)] at reached
    exact ⟨ds, r, o', runs, allowed, confined, _, _, _, made, rfl, marked,
      fun m => reached (by decide) (by decide) _ _ m made⟩
  · obtain ⟨ds, r, o', runs, allowed, -⟩ :=
      Sample.objects.exists_undisturbed .epoch (reconcileProvider .epoch Sample.provider).run
    exact ⟨ds, r, o', runs, allowed, ((writes_confined allowed).2 _ runs).1⟩

namespace Sample

/-- A grant of the small cluster that is being deleted, whose artifact bears the name of another
Secret, a mark and more. -/
def misnamed : Grant :=
  { known with
    metadata.finalizers := some [cleanupFinalizer]
    metadata.deletionTimestamp := some .epoch
    spec.secretName := "victim#x" }

/-- The message that is sent when the artifact of this grant is to be removed. -/
lemma sent_misnamed :
    (HttpMessage.removing (Paths.secret ⟨"team", "victim#x"⟩)).sent? =
      some (.removing (Paths.secret ⟨"team", "victim"⟩)) := by
  have cut : Paths.reached (Paths.secret ⟨"team", "victim#x"⟩) =
      Paths.secret ⟨"team", "victim"⟩ := by decide
  have plain : (Paths.secret ⟨"team", "victim"⟩).toList.all Paths.isPathChar = true := by decide
  simp only [HttpMessage.sent?, HttpMessage.removing, cut, plain, if_true]
  decide

end Sample

/-- It is not so that what a pass over a grant writes is sent to the paths of the grant and its
artifact: this one asks the server to remove another Secret beside the grant, and takes the word
that this one is gone for the removal of the artifact. -/
theorem foreign_secret_addressed :
    ∃ ds r m, (reconcileGrant .epoch Sample.misnamed).run.Runs ds r ∧
      Deed.request (.deleteSecret ⟨"team", "victim#x"⟩) (.ok true) ∈ ds ∧
      (Request.deleteSecret ⟨"team", "victim#x"⟩).converse.run.Sends m ∧
      m.method = .delete ∧ m.path = Paths.secret ⟨"team", "victim"⟩ ∧
      (∀ s ∈ Sample.misnamed.subjects, m.path ≠ s.path) ∧
      ∀ reply : HttpReply, reply.isRefusal = false → reply.TellsGone Secret.ofJson? →
        (Deed.request (.deleteSecret ⟨"team", "victim#x"⟩) (.ok true)).CarriedBy [(m, reply)] := by
  let deeds : List Deed := [
    .request (.getProvider "openai") (.ok none),
    .request (.deleteSecret ⟨"team", "victim#x"⟩) (.ok true),
    .publish (GrantPass.removedEvent Sample.misnamed "team"),
    .request (.removeFinalizer Sample.misnamed.key cleanupFinalizer) (.ok ()),
    .measure (.pass .grants true)]
  have runs : (reconcileGrant .epoch Sample.misnamed).run.Runs deeds (.ok .awaitChange) :=
    .request _ (.request _ (.publish (.request _ (.measure (.done _)))))
  refine ⟨deeds, _, .removing (Paths.secret ⟨"team", "victim"⟩), runs, by simp [deeds],
    Conversation.sends_delete.2 ⟨by decide, Sample.sent_misnamed⟩, rfl, rfl, by decide,
    fun reply accepted gone => ?_⟩
  exact Conversation.talks_delete.2
    ⟨by decide, _, reply, Sample.sent_misnamed, rfl, gone, by rw [accepted]; rfl⟩

end CredentialOperator
