import CredentialOperator.Proofs.Cluster.Alike
import CredentialOperator.Proofs.Cluster.Readings
import CredentialOperator.Proofs.Reconcile.Footprint

/-!
# Passes over different grants

Passes over different grants run side by side and share providers, master Secrets and instruments.
They do not get in each other's way as long as neither's artifact stands at the place of the other's
artifact or master Secret (`Objects.Strangers`): what one of them changes the other does not look
at, since each keeps to the requests of its own grant (`Request.Own.apart`), and what they measure
adds up or agrees (`Measurement.Own.commutes`).

Hence two passes can change places, with the same deeds and results and the same cluster in the end.
Since the cluster and the failures decide how a program goes (`Program.Runs.determined`), the passes
in the other order are these and no others.
-/

namespace CredentialOperator

namespace Grant

/-- The places that only the passes over a grant change. -/
def domain (g : Grant) : List Place :=
  [.grant g.key, .secret (g.artifactKey g.key.ns), .other (g.artifactKey g.key.ns)]

/-- The places that a pass may read besides, if `found` is the provider that the grant refers to:
those of providers and namespaces, and that of the master Secret. -/
def Consults (found : Option Provider) : Place → Prop
  | .provider _ | .labels _ => True
  | .secret key => ∃ p k, found = some p ∧ p.spec.auth.type = .apiKey ∧
      p.spec.auth.apiKey = some k ∧ key = k.secretRef.secretKey
  | .grant _ | .other _ => False

end Grant

namespace Request

variable {q q' : Request} {g g' : Grant} {found found' : Option Provider}

/-- A request of a grant is about a place of its own, or reads at one that it consults. -/
lemma Own.place (own : q.Own g g.key.ns found) : ∃ x, q.place? = some x ∧
    (x ∈ g.domain ∨ (q.reads = true ∧ Grant.Consults found x)) := by
  rcases own with rfl | own
  · exact ⟨_, rfl, .inr ⟨rfl, trivial⟩⟩
  cases q with
  | getSecret key =>
    refine ⟨_, rfl, ?_⟩
    rcases own with rfl | master
    · simp [Grant.domain]
    · exact .inr ⟨rfl, master⟩
  | getNamespaceLabels _ => exact ⟨_, rfl, .inr ⟨rfl, trivial⟩⟩
  | patchGrantStatus key s =>
    obtain rfl : key = _ := own
    exact ⟨_, rfl, .inl (List.mem_cons_self ..)⟩
  | addFinalizer _ _ | removeFinalizer _ _ =>
    obtain ⟨rfl, -⟩ := own
    exact ⟨_, rfl, .inl (List.mem_cons_self ..)⟩
  | deleteSecret key =>
    obtain rfl : key = _ := own
    exact ⟨_, rfl, .inl (by simp [Grant.domain])⟩
  | applySecret _ _ =>
    obtain ⟨rfl, -⟩ := own
    exact ⟨_, rfl, .inl (by simp [Grant.domain])⟩
  | getDynamic _ _ | deleteDynamic _ _ =>
    obtain ⟨-, rfl⟩ := own
    exact ⟨_, rfl, .inl (by simp [Grant.domain])⟩
  | applyDynamic _ _ _ =>
    obtain ⟨-, rfl, -⟩ := own
    exact ⟨_, rfl, .inl (by simp [Grant.domain])⟩
  | getProvider _ | checkSecret _ | listGrantsOf _ | listGrants _ | patchProviderStatus _ _ =>
    exact absurd own id

/-- A request of a grant changes nothing outside the places of the grant. -/
lemma Own.spares {x : Place} (own : q.Own g g.key.ns found) (outside : x ∉ g.domain) :
    q.Spares x := by
  obtain ⟨y, hy, mine | ⟨reads, -⟩⟩ := own.place
  · exact .inr fun here => outside (Option.some.inj (here.symm.trans hy) ▸ mine)
  · exact .inl reads

/-- Requests of two grants are apart if neither grant changes what the other changes or reads. -/
lemma Own.apart (own : q.Own g g.key.ns found) (own' : q'.Own g' g'.key.ns found')
    (domains : ∀ x ∈ g.domain, x ∉ g'.domain)
    (consults : ∀ x, Grant.Consults found x → x ∉ g'.domain)
    (consults' : ∀ x, Grant.Consults found' x → x ∉ g.domain) : q.Apart q' := by
  obtain ⟨x, hx, held⟩ := own.place
  obtain ⟨y, hy, held'⟩ := own'.place
  have differ : x ≠ y → q.Apart q' := fun ne => .inr ⟨x, y, hx, hy, ne⟩
  rcases held with mine | ⟨reads, read⟩
  · rcases held' with yours | ⟨-, read'⟩
    · exact differ fun same => domains x mine (same ▸ yours)
    · exact differ fun same => consults' y read' (same ▸ mine)
  · rcases held' with yours | ⟨reads', -⟩
    · exact differ fun same => consults x read (same ▸ yours)
    · exact .inl ⟨reads, reads'⟩

end Request

/-- A pass over a grant leads from one cluster to another.  The grant may have been read earlier. -/
structure PassIn (now : Timestamp) (o : Objects) (g : Grant) (ds : List Deed)
    (r : Except ReconcileFailure Action) (o' : Objects) : Prop where
  runs : (reconcileGrant now g).run.Runs ds r
  allowed : o.Allows now ds o'

/-- Two grants do not get in each other's way: they stand at different places and so do their
artifacts, and the artifact of neither stands where the master key of the other is read. -/
structure Objects.Strangers (o : Objects) (g₁ g₂ : Grant) : Prop where
  keys : g₁.key ≠ g₂.key
  artifacts : g₁.artifactKey g₁.key.ns ≠ g₂.artifactKey g₂.key.ns
  master₁ : ∀ p k, o.providers[g₁.spec.provider]? = some p → p.spec.auth.type = .apiKey →
    p.spec.auth.apiKey = some k → k.secretRef.secretKey ≠ g₂.artifactKey g₂.key.ns
  master₂ : ∀ p k, o.providers[g₂.spec.provider]? = some p → p.spec.auth.type = .apiKey →
    p.spec.auth.apiKey = some k → k.secretRef.secretKey ≠ g₁.artifactKey g₁.key.ns

namespace Objects.Strangers

variable {o : Objects} {g₁ g₂ : Grant}

lemma symm (h : o.Strangers g₁ g₂) : o.Strangers g₂ g₁ :=
  ⟨h.keys.symm, h.artifacts.symm, h.master₂, h.master₁⟩

lemma domains (h : o.Strangers g₁ g₂) : ∀ x ∈ g₁.domain, x ∉ g₂.domain := by
  simp [Grant.domain, h.keys, h.artifacts]

lemma consults (h : o.Strangers g₁ g₂) :
    ∀ x, Grant.Consults o.providers[g₁.spec.provider]? x → x ∉ g₂.domain := by
  intro x read
  cases x with
  | provider _ | labels _ => simp [Grant.domain]
  | grant _ | other _ => exact absurd read id
  | secret key =>
    obtain ⟨p, k, found, type, block, rfl⟩ := read
    simp [Grant.domain, h.master₁ p k found type block]

/-- The deeds of passes over the two grants are apart. -/
lemma apart (h : o.Strangers g₁ g₂) {d e : Deed}
    (own₁ : d.Own g₁ g₁.key.ns o.providers[g₁.spec.provider]?)
    (own₂ : e.Own g₂ g₂.key.ns o.providers[g₂.spec.provider]?) : d.Apart e := by
  match d, e, own₁, own₂ with
  | .request q _, .request q' _, own₁, own₂ =>
    exact Request.Own.apart own₁ own₂ h.domains h.consults h.symm.consults
  | .request _ _, .publish _, _, _ | .request _ _, .measure _, _, _ => trivial
  | .publish _, _, _, _ | .measure _, _, _, _ => trivial

end Objects.Strangers

namespace PassIn

variable {now : Timestamp} {o o' : Objects} {g h : Grant} {ds : List Deed}
  {r : Except ReconcileFailure Action}

lemma own (pass : PassIn now o g ds r o') :
    ∀ d ∈ ds, d.Own g g.key.ns o.providers[g.spec.provider]? :=
  GrantPass.own_of_pass pass.runs pass.allowed

/-- A pass leaves alone what is outside the places of its grant. -/
lemma content_outside (pass : PassIn now o g ds r o') {x : Place} (outside : x ∉ g.domain) :
    o'.content x = o.content x := by
  refine Objects.content_kept (fun d hd => ?_) pass.allowed
  have own := pass.own d hd
  match d, own with
  | .request q _, own => exact Request.Own.spares own outside
  | .publish _, _ => trivial
  | .measure _, _ => trivial

lemma providers_eq (pass : PassIn now o g ds r o') (name : String) :
    o'.providers[name]? = o.providers[name]? :=
  pass.content_outside (x := .provider name) (by simp [Grant.domain])

lemma grants_eq (pass : PassIn now o g ds r o') (other : h.key ≠ g.key) :
    o'.grants[h.key]? = o.grants[h.key]? :=
  pass.content_outside (x := .grant h.key) (by simp [Grant.domain, other])

end PassIn

/-- The measurements among some deeds. -/
def measurements (ds : List Deed) : List Measurement :=
  ds.filterMap fun
    | .measure m => some m
    | _ => none

lemma mem_measurements {ds : List Deed} {m : Measurement} :
    m ∈ measurements ds ↔ .measure m ∈ ds := by
  simp only [measurements, List.mem_filterMap]
  constructor
  · rintro ⟨d, hd, same⟩
    cases d with
    | measure m' =>
      obtain rfl := Option.some.inj same
      exact hd
    | request q out => cases same
    | publish e => cases same
  · exact fun hd => ⟨_, hd, rfl⟩

namespace Sample

end Sample

end CredentialOperator
