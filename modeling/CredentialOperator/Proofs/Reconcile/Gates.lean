import CredentialOperator.Proofs.Reconcile.Courses
import CredentialOperator.Proofs.Reconcile.Statuses

/-!
# No credential without every gate

A credential is handed out only to a grant that is `Cleared`: it is to be kept and has its
finalizer, its provider exists, serves its namespace and allows its capabilities, and declares
the block of its type of authentication.  Conversely nothing else than a missing master key or
a request that fails keeps a grant that is cleared from its credential.

Which gate a grant fails at first is told by `Objects.verdict`, which speaks of the objects of
the cluster alone; the reason recorded in the grant is this one.
-/

namespace CredentialOperator

/-! ## The gates -/

namespace Provider

/-- The provider serves a namespace with the given labels, which are absent if there is no such
namespace: it has no selector, or one that is valid and accepts them. -/
def Serves (p : Provider) (labels : Option StringMap) : Prop :=
  ∃ l, labels = some l ∧ ∀ selector, p.spec.namespaceSelector = some selector →
    selector.isValid = true ∧ selector.accepts l = true

/-- The provider allows all of some capabilities. -/
def Permits (p : Provider) (capabilities : List String) : Prop :=
  p.spec.allowedCapabilities = [] ∨ ∀ c ∈ capabilities, c ∈ p.spec.allowedCapabilities

/-- The provider has the block of its type of authentication, which is one that is served. -/
def Declares (p : Provider) : Prop :=
  (p.spec.auth.type = .apiKey ∧ p.spec.auth.apiKey.isSome) ∨
    (p.spec.auth.type = .externalSecret ∧ p.spec.auth.externalSecret.isSome)

lemma serves_iff {p : Provider} {labels : Option StringMap} :
    p.Serves labels ↔ labels.any p.spec.servesNamespace = true := by
  cases labels with
  | none => simp [Serves]
  | some l =>
    cases hs : p.spec.namespaceSelector with
    | none => simp [Serves, ProviderSpec.servesNamespace, hs]
    | some selector => simp [Serves, ProviderSpec.servesNamespace, hs]

lemma permits_iff {p : Provider} {capabilities : List String} :
    p.Permits capabilities ↔ (p.spec.disallowed capabilities).isEmpty = true := by
  unfold Permits ProviderSpec.disallowed
  cases p.spec.allowedCapabilities with
  | nil => simp
  | cons c cs => simp [List.filter_eq_nil_iff, or_iff_not_imp_left]

instance (p : Provider) (labels : Option StringMap) : Decidable (p.Serves labels) :=
  decidable_of_iff _ serves_iff.symm

instance (p : Provider) (capabilities : List String) : Decidable (p.Permits capabilities) :=
  decidable_of_iff _ permits_iff.symm

end Provider

namespace Objects

/-- A grant of a namespace may be handed a credential of a provider. -/
structure Cleared (o : Objects) (g : Grant) (ns : String) (p : Provider) : Prop where
  /-- The grant is not being deleted. -/
  kept : g.metadata.deletionTimestamp = none
  /-- It has the finalizer, so that it cannot go away with its artifact left behind. -/
  claimed : cleanupFinalizer ∈ g.finalizers
  /-- The provider that it names exists. -/
  found : o.providers[g.spec.provider]? = some p
  /-- The provider serves the namespace, which exists. -/
  served : p.Serves o.namespaces[ns]?
  /-- The provider allows every capability asked for. -/
  permitted : p.Permits g.spec.capabilities
  /-- The provider has the block of its type of authentication. -/
  declared : p.Declares

/-- The master Secret of a provider, if it is one with a key, holds the declared key. -/
def HoldsKey (o : Objects) (p : Provider) : Prop :=
  ∀ k, p.spec.auth.type = .apiKey → p.spec.auth.apiKey = some k →
    ∃ master, o.secrets[k.secretRef.secretKey]? = some master ∧
      (master.get? k.secretRef.key).isSome

/-- An artifact can be made from what a provider declares. -/
def canProvide (o : Objects) (p : Provider) : Bool :=
  match p.spec.auth.type with
  | .apiKey =>
    (p.spec.auth.apiKey.bind fun k =>
      o.secrets[k.secretRef.secretKey]?.bind (·.get? k.secretRef.key)).isSome
  | .externalSecret => p.spec.auth.externalSecret.isSome
  | .workloadIdentity => false

/-- The reason of the first gate that is closed for a grant, or that all are open. -/
def verdict (o : Objects) (g : Grant) (ns : String) : GrantReason :=
  match o.providers[g.spec.provider]? with
  | none => .declarationNotFound
  | some p =>
    if ¬ p.Serves o.namespaces[ns]? then .namespaceNotAllowed
    else if ¬ p.Permits g.spec.capabilities then .capabilityNotAllowed
    else if p.spec.auth.type = .workloadIdentity then .strategyUnsupported
    else if o.canProvide p then .credentialReady
    else .provisioningFailed

end Objects

namespace Grant

variable {g : Grant} {ns : String} {p : Provider} {labels : Option StringMap} {s : Strategy}

lemma gate_ok_iff :
    g.gate ns p labels = .ok s ↔
      p.Serves labels ∧ p.Permits g.spec.capabilities ∧ Strategy.ofProvider? p = some s := by
  rw [Provider.serves_iff, Provider.permits_iff]
  simp only [gate]
  cases labels.any p.spec.servesNamespace with
  | false => simp
  | true =>
    cases (p.spec.disallowed g.spec.capabilities).isEmpty with
    | false => simp
    | true => cases Strategy.ofProvider? p <;> simp

lemma gate_error {rej : Rejection} (h : g.gate ns p labels = .error rej) :
    (¬ p.Serves labels ∧ rej.reason = .namespaceNotAllowed) ∨
      (p.Serves labels ∧ ¬ p.Permits g.spec.capabilities ∧ rej.reason = .capabilityNotAllowed) ∨
      (p.Serves labels ∧ p.Permits g.spec.capabilities ∧ Strategy.ofProvider? p = none ∧
        rej.reason = .strategyUnsupported) := by
  rw [Provider.serves_iff, Provider.permits_iff]
  unfold gate at h
  cases hl : labels.any p.spec.servesNamespace with
  | false =>
    simp only [hl, Bool.not_false, if_true, Except.error.injEq] at h
    subst h
    exact .inl ⟨by simp, rfl⟩
  | true =>
    cases hd : (p.spec.disallowed g.spec.capabilities).isEmpty with
    | false =>
      simp only [hl, hd, Bool.not_true, Bool.not_false, Bool.false_eq_true, if_false, if_true,
        Except.error.injEq] at h
      subst h
      exact .inr (.inl ⟨rfl, by simp, rfl⟩)
    | true =>
      cases hs : Strategy.ofProvider? p with
      | none =>
        simp only [hl, hd, hs, Bool.not_true, Bool.false_eq_true, if_false,
          Except.error.injEq] at h
        subst h
        exact .inr (.inr ⟨rfl, rfl, rfl, rfl⟩)
      | some s => simp [hl, hd, hs] at h

end Grant

/-! ## Attempts to make an artifact -/

/-- Whether a request writes an artifact. -/
def Request.applies : Request → Bool
  | .applySecret _ _ | .applyDynamic _ _ _ => true
  | _ => false

namespace Deed

/-- Whether a deed is a request to write an artifact, be it carried out or not. -/
def applies : Deed → Bool
  | .request r _ => r.applies
  | _ => false

/-- The deed is a request to write into a grant that pods can be given the artifact. -/
def WritesReady : Deed → Prop
  | .request (.patchGrantStatus _ s) _ => s.IsReady
  | _ => False

/-- The deed hands out a credential, or tells that it was. -/
def Hands (d : Deed) : Prop := d.applies = true ∨ d.WritesReady

lemma Quiet.not_applies {d : Deed} (h : d.Quiet) : d.applies = false := by
  cases d with
  | request r o => cases r <;> first | rfl | simp [Quiet, Request.reads] at h
  | publish e => rfl
  | measure m => rfl

lemma Quiet.not_hands {d : Deed} (h : d.Quiet) : ¬ d.Hands := by
  rintro (applied | written)
  · simp [h.not_applies] at applied
  · cases d with
    | request r o => cases r <;> first | exact written | simp [Quiet, Request.reads] at h
    | publish e => exact written
    | measure m => exact written

end Deed

namespace Strategy

variable {now : Timestamp} {p : Provider} {g : Grant} {ns : String} {ds : List Deed}
  {r : Except ProvisionFailure ProvisionResult} {s : Strategy}

lemma ofProvider?_eq_none_iff : ofProvider? p = none ↔ p.spec.auth.type = .workloadIdentity := by
  unfold ofProvider?
  cases p.spec.auth.type <;> simp [ofAuthType?]

lemma ofProvider?_eq_some_iff : ofProvider? p = some s ↔ p.spec.auth.type = s.authType := by
  unfold ofProvider?
  cases p.spec.auth.type <;> cases s <;> simp [ofAuthType?, authType]

/-- An attempt that does anything has found the block of its type. -/
lemma Attempt.declared (h : s.Attempt now p g ns ds r) (hs : ofProvider? p = some s)
    (acts : ds ≠ []) : p.Declares := by
  have type : p.spec.auth.type = s.authType := ofProvider?_eq_some_iff.1 hs
  cases s with
  | directCopy =>
    have block : p.spec.auth.apiKey.isSome := by
      cases h with
      | unconfigured h => exact absurd rfl acts
      | masterUnread h _ _ | masterMissing h | keyMissing h _ | artifactUnread h _ _ _
      | unwritten h _ _ _ _ | written h _ _ => simp [h]
    exact .inl ⟨type, block⟩
  | delegatedSync =>
    have block : p.spec.auth.externalSecret.isSome := by
      cases h with
      | unconfigured h => exact absurd rfl acts
      | unwritten h _ _ _ | written h _ _ => simp [h]
    exact .inr ⟨type, block⟩

lemma Attempt.acts {result : ProvisionResult} (h : s.Attempt now p g ns ds (.ok result)) :
    ds ≠ [] := by
  cases s with
  | directCopy => cases h; simp
  | delegatedSync => cases h; simp

/-- An attempt reads, and writes the artifact. -/
lemma Attempt.mem {d : Deed} (h : s.Attempt now p g ns ds r) (hd : d ∈ ds) :
    d.Reads ∨ d.applies = true := by
  revert d
  cases s with
  | directCopy => cases h <;> simp [Deed.Reads, Deed.applies, Request.reads, Request.applies]
  | delegatedSync => cases h <;> simp [Deed.Reads, Deed.applies, Request.reads, Request.applies]

/-- An attempt leaves the statuses of grants alone. -/
lemma Attempt.not_writes {d : Deed} (h : s.Attempt now p g ns ds r) (hd : d ∈ ds)
    {key : ObjectKey} {t : GrantStatus} {o : (Request.patchGrantStatus key t).Outcome} :
    d ≠ .request (.patchGrantStatus key t) o := by
  rintro rfl
  rcases h.mem hd with reads | applied
  · simp [Deed.Reads, Request.reads] at reads
  · cases applied

/-- What comes of an attempt that is not disturbed: it makes one artifact, if one can be made,
and leaves the grants alone. -/
lemma Attempt.outcome {o o' : Objects} (h : s.Attempt now p g ns ds r)
    (hs : ofProvider? p = some s) (hu : Undisturbed ds) (ha : o.Allows now ds o') :
    o'.grants = o.grants ∧
      ((∃ result, r = .ok result) ∧ o.canProvide p = true ∧ (∃ d, ds.filter Deed.applies = [d]) ∨
        (∃ f, r = .error f) ∧ o.canProvide p = false) := by
  have type : p.spec.auth.type = s.authType := ofProvider?_eq_some_iff.1 hs
  -- ways that end with a failed request are disturbed; in the others what was read tells
  -- whether the artifact can be made
  cases s with
  | directCopy =>
    cases h with
    | unconfigured h =>
      obtain rfl := ha
      exact ⟨rfl, .inr ⟨⟨_, rfl⟩, by simp [Objects.canProvide, type, authType, h]⟩⟩
    | masterUnread h context e => exact absurd Deed.fails_error (undisturbed_cons.1 hu).1
    | @masterMissing k h =>
      obtain ⟨missing, same⟩ := ha
      have missing : o.secrets[k.secretRef.secretKey]? = none := missing
      exact ⟨congrArg Objects.grants same,
        .inr ⟨⟨_, rfl⟩, by simp [Objects.canProvide, type, authType, h, missing]⟩⟩
    | @keyMissing k master h hm =>
      obtain ⟨found, same⟩ := ha
      have found : o.secrets[k.secretRef.secretKey]? = some master := found
      exact ⟨congrArg Objects.grants same,
        .inr ⟨⟨_, rfl⟩, by simp [Objects.canProvide, type, authType, h, found, hm]⟩⟩
    | artifactUnread h hm context e =>
      exact absurd Deed.fails_error (undisturbed_cons.1 (undisturbed_cons.1 hu).2).1
    | unwritten h hm old context e =>
      exact absurd Deed.fails_error
        (undisturbed_cons.1 (undisturbed_cons.1 (undisturbed_cons.1 hu).2).2).1
    | @written k master value h hm old =>
      obtain ⟨found, -, -, rfl⟩ := ha
      have found : o.secrets[k.secretRef.secretKey]? = some master := found
      exact ⟨rfl, .inl ⟨⟨_, rfl⟩, by simp [Objects.canProvide, type, authType, h, found, hm],
        ⟨_, rfl⟩⟩⟩
  | delegatedSync =>
    cases h with
    | unconfigured h =>
      obtain rfl := ha
      exact ⟨rfl, .inr ⟨⟨_, rfl⟩, by simp [Objects.canProvide, type, authType, h]⟩⟩
    | unwritten h hb context e => exact absurd Deed.fails_error (undisturbed_cons.1 hu).1
    | written h hb stored =>
      obtain ⟨-, rfl⟩ := ha
      exact ⟨rfl, .inl ⟨⟨_, rfl⟩, by simp [Objects.canProvide, type, authType, h], ⟨_, rfl⟩⟩⟩

end Strategy

/-! ## Passes -/

/-- A status that was kept or written gives the verdict that was to be reported. -/
lemma GrantStatus.verdict_of_stored {s t : GrantStatus} {c : Condition}
    (h : t = s ∨ t.equivalent s = true) (hc : s.verdict? = some c) :
    ∃ b, t.verdict? = some b ∧ b.status = c.status ∧ b.reason = c.reason := by
  rcases h with rfl | h
  · exact ⟨c, hc, rfl, rfl⟩
  · obtain ⟨b, hb, same⟩ := verdict_of_equivalent h hc
    have agree := Condition.sameState_iff.1 same
    exact ⟨b, hb, agree.2.1, agree.2.2.1⟩

namespace Objects

variable {o : Objects} {g : Grant} {ns : String} {p : Provider}

lemma canProvide_of_cleared (h : o.Cleared g ns p) (hm : o.HoldsKey p) :
    o.canProvide p = true := by
  rcases h.declared with ⟨type, block⟩ | ⟨type, block⟩
  · obtain ⟨k, hk⟩ := Option.isSome_iff_exists.1 block
    obtain ⟨master, found, holds⟩ := hm k type hk
    simp [canProvide, type, hk, found, holds]
  · simp [canProvide, type, block]

lemma verdict_of_cleared (h : o.Cleared g ns p) (hm : o.HoldsKey p) :
    o.verdict g ns = .credentialReady := by
  have served_type : p.spec.auth.type ≠ .workloadIdentity := by
    rcases h.declared with ⟨type, -⟩ | ⟨type, -⟩ <;> simp [type]
  simp [verdict, h.found, h.served, h.permitted, served_type, canProvide_of_cleared h hm]

/-- Behind the gate only the credential itself can be missing. -/
lemma verdict_of_gate {s : Strategy} (found : o.providers[g.spec.provider]? = some p)
    (gate : g.gate ns p o.namespaces[ns]? = .ok s) :
    o.verdict g ns = if o.canProvide p then .credentialReady else .provisioningFailed := by
  obtain ⟨served, permitted, strategy⟩ := Grant.gate_ok_iff.1 gate
  have served_type : p.spec.auth.type ≠ .workloadIdentity := by
    intro type
    rw [Strategy.ofProvider?_eq_none_iff.2 type] at strategy
    cases strategy
  simp [verdict, found, served, permitted, served_type]

lemma verdict_of_refusal {rej : Rejection} (found : o.providers[g.spec.provider]? = some p)
    (gate : g.gate ns p o.namespaces[ns]? = .error rej) : o.verdict g ns = rej.reason := by
  rcases Grant.gate_error gate with ⟨served, reason⟩ | ⟨served, permitted, reason⟩ |
    ⟨served, permitted, strategy, reason⟩
  · simp [verdict, found, served, reason]
  · simp [verdict, found, served, permitted, reason]
  · simp [verdict, found, served, permitted, Strategy.ofProvider?_eq_none_iff.1 strategy, reason]

end Objects

namespace GrantPass

variable {now : Timestamp} {g : Grant} {ns : String} {ds : List Deed}
  {r : Except ReconcileFailure Action} {o o' : Objects}

/-- What an undisturbed pass leaves in the grant that it serves: a status with the verdict of
the first closed gate, or of none. -/
structure Settled (o : Objects) (g : Grant) (ns : String) (ds : List Deed)
    (r : Except ReconcileFailure Action) (o' : Objects) : Prop where
  ended : ∃ a, r = .ok a
  recorded : ∃ t c, o'.grants[(⟨ns, g.name⟩ : ObjectKey)]? = some { g with status := some t } ∧
    t.verdict? = some c ∧ c.reason = (o.verdict g ns).text ∧
    (o.verdict g ns = .credentialReady → c.status = .true)
  applied : o.verdict g ns = .credentialReady → ∃ d, ds.filter Deed.applies = [d]

lemma Report.not_applies {s : GrantStatus} {before news after : List Deed} {a : Action}
    (h : Report g ns s before news after a ds r)
    (quiet : ∀ d, d ∈ before ∨ d ∈ news ∨ d ∈ after → d.Quiet) {d : Deed} (hd : d ∈ ds) :
    d.applies = false := by
  rcases h.mem hd with hd | ⟨o, rfl⟩
  · exact (quiet d hd).not_applies
  · rfl

/-- A report of the verdict settles a pass, if the artifact was applied where it is due. -/
lemma Report.settled {o₁ : Objects} {s : GrantStatus} {before news after : List Deed}
    {a : Action} {c : Condition} (es : List Deed) (h : Report g ns s before news after a ds r)
    (quiet : ∀ d, d ∈ before ∨ d ∈ news ∨ d ∈ after → d.Quiet)
    (hk : o₁.grants[(⟨ns, g.name⟩ : ObjectKey)]? = some g) (hu : Undisturbed ds)
    (ha : o₁.Allows now ds o') (hc : s.verdict? = some c)
    (reason : c.reason = (o.verdict g ns).text)
    (ready : o.verdict g ns = .credentialReady → c.status = .true)
    (applied : o.verdict g ns = .credentialReady → ∃ d, es.filter Deed.applies = [d]) :
    Settled o g ns (es ++ ds) r o' := by
  obtain ⟨ended, t, stored, same⟩ := h.stored quiet hk hu ha
  obtain ⟨b, hb, status, hbr⟩ := GrantStatus.verdict_of_stored same hc
  have none_applied : ds.filter Deed.applies = [] :=
    List.filter_eq_nil_iff.2 fun d hd => by simp [h.not_applies quiet hd]
  refine ⟨⟨a, ended⟩, ⟨t, b, stored, hb, hbr.trans reason, ?_⟩, ?_⟩
  · intro hv
    rw [status, ready hv]
  · intro hv
    obtain ⟨d, hd⟩ := applied hv
    exact ⟨d, by rw [List.filter_append, none_applied, hd, List.append_nil]⟩

lemma Serving.settled (h : Serving now g ns ds r)
    (hk : o.grants[(⟨ns, g.name⟩ : ObjectKey)]? = some g) (hu : Undisturbed ds)
    (ha : o.Allows now ds o') : Settled o g ns ds r o' := by
  -- each way is matched with the gate that the objects of the cluster close
  cases h with
  | providerUnread e => exact absurd Deed.fails_error (undisturbed_cons.1 hu).1
  | namespaceUnread p e =>
    exact absurd Deed.fails_error (undisturbed_cons.1 (undisturbed_cons.1 hu).2).1
  | providerMissing report =>
    obtain ⟨missing, ha⟩ := ha
    have missing : o.providers[g.spec.provider]? = none := missing
    have verdict : o.verdict g ns = .declarationNotFound := by simp [Objects.verdict, missing]
    obtain ⟨c, hc, -, reason⟩ :=
      Grant.verdict_rejectedStatus g now (.providerNotFound g.spec.provider)
    exact report.settled [_] (fun _ => quiet_rejection) hk (undisturbed_cons.1 hu).2 ha hc
      (by rw [verdict]; exact reason) (by simp [verdict]) (by simp [verdict])
  | @refused p labels rej _ _ gate report =>
    obtain ⟨found, read, ha⟩ := ha
    have found : o.providers[g.spec.provider]? = some p := found
    have read : o.namespaces[ns]? = labels := read
    have verdict : o.verdict g ns = rej.reason := Objects.verdict_of_refusal found (read ▸ gate)
    have not_ready : rej.reason ≠ .credentialReady := by cases rej <;> simp [Rejection.reason]
    obtain ⟨c, hc, -, reason⟩ := Grant.verdict_rejectedStatus g now rej
    exact report.settled [_, _] (fun _ => quiet_rejection) hk
      (undisturbed_cons.1 (undisturbed_cons.1 hu).2).2 ha hc (by rw [verdict]; exact reason)
      (by simp [verdict, not_ready]) (by simp [verdict, not_ready])
  | @failed p labels s f ds₁ ds₂ _ gate attempt report =>
    obtain ⟨found, read, ha⟩ := ha
    have found : o.providers[g.spec.provider]? = some p := found
    have read : o.namespaces[ns]? = labels := read
    have ha : o.Allows now (ds₁ ++ ds₂) o' := ha
    obtain ⟨o₁, ha₁, ha₂⟩ := Objects.allows_append.1 ha
    have undisturbed := undisturbed_append.1 (undisturbed_cons.1 (undisturbed_cons.1 hu).2).2
    obtain ⟨same, ⟨⟨_, absurd_ok⟩, -⟩ | ⟨-, missing⟩⟩ :=
      attempt.outcome (Grant.gate_ok_iff.1 gate).2.2 undisturbed.1 ha₁
    · cases absurd_ok
    have verdict : o.verdict g ns = .provisioningFailed := by
      simp [Objects.verdict_of_gate found (read ▸ gate), missing]
    obtain ⟨c, hc, -, reason⟩ := Grant.verdict_failedStatus g now f.message
    exact report.settled (_ :: _ :: ds₁) (fun _ => quiet_failure) (same ▸ hk) undisturbed.2
      ha₂ hc (by rw [verdict]; exact reason) (by simp [verdict]) (by simp [verdict])
  | @provisioned p labels s result ds₁ ds₂ look _ gate attempt reads report =>
    obtain ⟨found, read, ha⟩ := ha
    have found : o.providers[g.spec.provider]? = some p := found
    have read : o.namespaces[ns]? = labels := read
    have ha : o.Allows now (ds₁ ++ ds₂) o' := ha
    obtain ⟨o₁, ha₁, ha₂⟩ := Objects.allows_append.1 ha
    have undisturbed := undisturbed_append.1 (undisturbed_cons.1 (undisturbed_cons.1 hu).2).2
    obtain ⟨same, ⟨-, provided, d, applied⟩ | ⟨⟨_, absurd_error⟩, -⟩⟩ :=
      attempt.outcome (Grant.gate_ok_iff.1 gate).2.2 undisturbed.1 ha₁
    · have verdict : o.verdict g ns = .credentialReady := by
        simp [Objects.verdict_of_gate found (read ▸ gate), provided]
      obtain ⟨c, hc, status, reason⟩ :=
        Grant.verdict_provisionedStatus g now (rotationOf now g p) result
      exact report.settled (_ :: _ :: ds₁) (fun _ => quiet_provisioned reads) (same ▸ hk)
        undisturbed.2 ha₂ hc (by rw [verdict]; exact reason) (fun _ => status)
        (fun _ => ⟨d, by simpa [Deed.applies, Request.applies] using applied⟩)
    · cases absurd_error

/-- An undisturbed pass makes the artifact of a grant that is cleared, and reports it. -/
lemma Serving.made_of_cleared {p : Provider} (h : Serving now g ns ds r)
    (cleared : o.Cleared g ns p) (key : o.HoldsKey p) (hu : Undisturbed ds)
    (ha : o.Allows now ds o') :
    ∃ result look told, (∀ d ∈ look, d.Reads) ∧ Provisioned now g ns p result look told r ∧
      (∀ d ∈ told, d ∈ ds) ∧ Undisturbed told := by
  have same : ∀ {p' : Provider}, o.providers[g.spec.provider]? = some p' → p' = p :=
    fun found => Option.some.inj (found.symm.trans cleared.found)
  cases h with
  | providerUnread e => exact absurd Deed.fails_error (undisturbed_cons.1 hu).1
  | namespaceUnread p' e =>
    exact absurd Deed.fails_error (undisturbed_cons.1 (undisturbed_cons.1 hu).2).1
  | providerMissing report =>
    have missing : o.providers[g.spec.provider]? = none := ha.1
    simp [cleared.found] at missing
  | @refused p' labels rej _ _ gate report =>
    obtain rfl := same ha.1
    have read : o.namespaces[ns]? = labels := ha.2.1
    have refusal := Objects.verdict_of_refusal cleared.found (read ▸ gate)
    rw [Objects.verdict_of_cleared cleared key] at refusal
    cases rej <;> cases refusal
  | @failed p' labels s f ds₁ ds₂ _ gate attempt report =>
    obtain rfl := same ha.1
    obtain ⟨o₁, ha₁, -⟩ := Objects.allows_append.1 ha.2.2
    have undisturbed := undisturbed_append.1 (undisturbed_cons.1 (undisturbed_cons.1 hu).2).2
    obtain ⟨-, ⟨⟨_, absurd_ok⟩, -⟩ | ⟨-, missing⟩⟩ :=
      attempt.outcome (Grant.gate_ok_iff.1 gate).2.2 undisturbed.1 ha₁
    · cases absurd_ok
    · have provided : o.canProvide p' = true := Objects.canProvide_of_cleared cleared key
      exact absurd (provided.symm.trans missing) (by simp)
  | @provisioned p' labels s result ds₁ ds₂ look _ gate attempt reads report =>
    obtain rfl := same ha.1
    have undisturbed := undisturbed_append.1 (undisturbed_cons.1 (undisturbed_cons.1 hu).2).2
    exact ⟨result, look, ds₂, reads, report, fun d hd => by simp [hd], undisturbed.2⟩

/-- Serving a grant reads, writes the artifact and writes the status. -/
lemma Serving.mem (h : Serving now g ns ds r) {d : Deed} (hd : d ∈ ds) :
    d.Quiet ∨ d.applies = true ∨ ∃ key t o, d = .request (.patchGrantStatus key t) o := by
  rcases h.attempted hd with quiet | ⟨t, o, rfl⟩ | ⟨_, _, _, _, _, _, attempt, mem, -⟩
  · exact .inl quiet
  · exact .inr (.inr ⟨_, t, o, rfl⟩)
  · exact (attempt.mem mem).imp Deed.Reads.quiet .inl

/-- What a report hands out is the status that it reports. -/
lemma Report.hands {s : GrantStatus} {before news after : List Deed} {a : Action}
    (h : Report g ns s before news after a ds r)
    (quiet : ∀ d, d ∈ before ∨ d ∈ news ∨ d ∈ after → d.Quiet) {d : Deed} (hd : d ∈ ds)
    (hands : d.Hands) :
    s.IsReady ∧ ∃ o, d = .request (.patchGrantStatus ⟨ns, g.name⟩ s) o := by
  rcases h.mem hd with hd | ⟨o, rfl⟩
  · exact absurd hands (quiet d hd).not_hands
  · rcases hands with applied | written
    · cases applied
    · exact ⟨written, o, rfl⟩

/-- Serving a grant hands out a credential only if the grant is cleared, and says so together
with the capabilities that it asks for. -/
lemma Serving.guarded (h : Serving now g ns ds r) (ha : o.Allows now ds o')
    (kept : g.isDeleting = false) (claimed : hasFinalizer g = true) {d : Deed} (hd : d ∈ ds)
    (hands : d.Hands) :
    (∃ p, o.Cleared g ns p) ∧
      ∀ key t out, d = .request (.patchGrantStatus key t) out →
        t.grantedCapabilities = g.spec.capabilities := by
  have reading : ∀ {d : Deed}, d.Reads → ¬ d.Hands := fun h => h.quiet.not_hands
  -- whoever comes past the gate has found the provider and the namespace in the cluster
  have cleared : ∀ {p : Provider} {labels : Option StringMap} {s : Strategy},
      o.providers[g.spec.provider]? = some p → o.namespaces[ns]? = labels →
      g.gate ns p labels = .ok s → p.Declares → o.Cleared g ns p := by
    intro p labels s found read gate declared
    obtain ⟨served, permitted, -⟩ := Grant.gate_ok_iff.1 gate
    refine ⟨?_, ?_, found, read ▸ served, permitted, declared⟩
    · simpa [Grant.isDeleting] using kept
    · simpa [hasFinalizer] using claimed
  cases h with
  | providerUnread e =>
    rw [List.mem_singleton.1 hd] at hands
    exact absurd hands (reading rfl)
  | namespaceUnread p e =>
    simp only [List.mem_cons, List.not_mem_nil, or_false] at hd
    rcases hd with rfl | rfl
    · exact absurd hands (reading rfl)
    · exact absurd hands (reading rfl)
  | providerMissing report =>
    rcases List.mem_cons.1 hd with rfl | hd
    · exact absurd hands (reading rfl)
    · exact absurd (report.hands (fun _ => quiet_rejection) hd hands).1
        (Grant.not_isReady_rejectedStatus _)
  | refused gate report =>
    rcases List.mem_cons.1 hd with rfl | hd
    · exact absurd hands (reading rfl)
    rcases List.mem_cons.1 hd with rfl | hd
    · exact absurd hands (reading rfl)
    · exact absurd (report.hands (fun _ => quiet_rejection) hd hands).1
        (Grant.not_isReady_rejectedStatus _)
  | failed gate attempt report =>
    rcases List.mem_cons.1 hd with rfl | hd
    · exact absurd hands (reading rfl)
    rcases List.mem_cons.1 hd with rfl | hd
    · exact absurd hands (reading rfl)
    rcases List.mem_append.1 hd with hd | hd
    · refine ⟨⟨_, cleared ha.1 ha.2.1 gate
        (attempt.declared (Grant.gate_ok_iff.1 gate).2.2 (List.ne_nil_of_mem hd))⟩, ?_⟩
      intro key t out same
      exact absurd same (attempt.not_writes hd)
    · exact absurd (report.hands (fun _ => quiet_failure) hd hands).1
        (Grant.not_isReady_failedStatus _)
  | provisioned gate attempt reads report =>
    rcases List.mem_cons.1 hd with rfl | hd
    · exact absurd hands (reading rfl)
    rcases List.mem_cons.1 hd with rfl | hd
    · exact absurd hands (reading rfl)
    refine ⟨⟨_, cleared ha.1 ha.2.1 gate
      (attempt.declared (Grant.gate_ok_iff.1 gate).2.2 attempt.acts)⟩, ?_⟩
    intro key t out same
    rcases List.mem_append.1 hd with hd | hd
    · exact absurd same (attempt.not_writes hd)
    · obtain ⟨-, o, same'⟩ := report.hands (fun _ => quiet_provisioned reads) hd hands
      rw [same] at same'
      cases same'
      rfl

/-- Releasing a grant hands out nothing. -/
lemma Releasing.not_hands (h : Releasing g ns ds r) {d : Deed} (hd : d ∈ ds) : ¬ d.Hands := by
  rcases h.mem hd with quiet | ⟨_ | _, o, rfl⟩ | ⟨o, rfl⟩
  · exact quiet.not_hands
  all_goals
    rintro (applied | written)
    · cases applied
    · exact written

/-- Only serving hands out anything, and it does so behind every gate. -/
lemma Course.guarded (h : Course now g ds r) (hns : g.metadata.ns = some ns)
    (ha : o.Allows now ds o') {d : Deed} (hd : d ∈ ds) (hands : d.Hands) :
    (∃ p, o.Cleared g ns p) ∧
      ∀ key t out, d = .request (.patchGrantStatus key t) out →
        t.grantedCapabilities = g.spec.capabilities := by
  cases h with
  | homeless _ => simp at hd
  | released _ _ _ => simp at hd
  | releasing _ _ _ rest => exact absurd hands (rest.not_hands hd)
  | claiming hns' kept unclaimed out =>
    obtain rfl := List.mem_singleton.1 hd
    rcases hands with applied | written
    · cases applied
    · exact absurd written id
  | serving hns' kept claimed rest =>
    obtain rfl := Option.some.inj (hns'.symm.trans hns)
    exact rest.guarded ha kept claimed hd hands

/-- A grant that is to be kept and has its finalizer is served. -/
lemma Course.serving_of_claimed (h : Course now g ds r) (hns : g.metadata.ns = some ns)
    (kept : g.isDeleting = false) (claimed : hasFinalizer g = true) : Serving now g ns ds r := by
  cases h with
  | homeless hns' => simp [hns] at hns'
  | released _ hd _ => simp [kept] at hd
  | releasing _ hd _ _ => simp [kept] at hd
  | claiming _ _ hf _ => simp [claimed] at hf
  | serving hns' _ _ rest =>
    obtain rfl := Option.some.inj (hns'.symm.trans hns)
    exact rest

/-- A grant that is being deleted and has its finalizer is to be released. -/
lemma Course.releasing_of_deleted (h : Course now g ds r) (hns : g.metadata.ns = some ns)
    (deleted : g.isDeleting = true) (claimed : hasFinalizer g = true) : Releasing g ns ds r := by
  cases h with
  | homeless hns' => simp [hns] at hns'
  | released _ _ hf => simp [claimed] at hf
  | releasing hns' _ _ rest =>
    obtain rfl := Option.some.inj (hns'.symm.trans hns)
    exact rest
  | claiming _ hd _ _ => simp [deleted] at hd
  | serving _ hd _ _ => simp [deleted] at hd

end GrantPass

lemma Grant.key_eq {g : Grant} {ns : String} (hns : g.metadata.ns = some ns) :
    g.key = ⟨ns, g.name⟩ := by
  simp [key, Metadata.key, hns, name]

/-- A pass over a grant in a namespace applies an artifact, or writes that the grant is ready,
only if every gate is open, whichever requests fail; and what it writes then names the
capabilities asked for.  If every gate is open, the master key is there and no request fails,
it applies one artifact and the grant is ready afterwards.  If no request fails, a grant that
is to be kept and has its finalizer bears the reason of the first gate that is closed. -/
theorem credential_behind_gates (now : Timestamp) (o : Objects) {g : Grant} {ns : String}
    (hns : g.metadata.ns = some ns) :
    (∃ ds r o', (reconcileGrant now g).run.Runs ds r ∧ o.Allows now ds o' ∧ Undisturbed ds) ∧
    ∀ ds r o', (reconcileGrant now g).run.Runs ds r → o.Allows now ds o' →
      (∀ d ∈ ds, d.applies = true ∨ d.WritesReady → ∃ p, o.Cleared g ns p) ∧
      (∀ key t out, .request (.patchGrantStatus key t) out ∈ ds → t.IsReady →
        t.grantedCapabilities = g.spec.capabilities) ∧
      (o.grants[g.key]? = some g → Undisturbed ds →
        (∀ p, o.Cleared g ns p → o.HoldsKey p →
          (∃ a, r = .ok a) ∧ (∃ d, ds.filter Deed.applies = [d]) ∧
            ∃ t, o'.grants[g.key]? = some { g with status := some t } ∧ t.IsReady) ∧
        (g.metadata.deletionTimestamp = none → cleanupFinalizer ∈ g.finalizers →
          ∃ t c, o'.grants[g.key]? = some { g with status := some t } ∧ t.verdict? = some c ∧
            c.reason = (o.verdict g ns).text)) := by
  refine ⟨o.exists_undisturbed now _, ?_⟩
  intro ds r o' runs ha
  obtain ⟨ds, course, allowed, rfl⟩ := GrantPass.course_of_allowed runs ha
  have guarded : ∀ d ∈ ds ++ Pass.endDeeds .grants r, d.Hands →
      (∃ p, o.Cleared g ns p) ∧ ∀ key t out, d = .request (.patchGrantStatus key t) out →
        t.grantedCapabilities = g.spec.capabilities := by
    intro d hd hands
    have hd : d ∈ ds := GrantPass.mem_course hd fun quiet => quiet.not_hands hands
    exact course.guarded hns allowed hd hands
  refine ⟨fun d hd hands => (guarded d hd hands).1,
    fun key t out hd ready => (guarded _ hd (.inr ready)).2 key t out rfl, ?_⟩
  intro hk hu
  rw [Grant.key_eq hns] at hk ⊢
  have undisturbed := (undisturbed_append.1 hu).1
  have settled : g.metadata.deletionTimestamp = none → cleanupFinalizer ∈ g.finalizers →
      GrantPass.Settled o g ns ds r o' := by
    intro kept claimed
    have serving := course.serving_of_claimed hns (by simp [Grant.isDeleting, kept])
      (by simpa [GrantPass.hasFinalizer] using claimed)
    exact serving.settled hk undisturbed allowed
  constructor
  · intro p cleared key
    have verdict := Objects.verdict_of_cleared cleared key
    obtain ⟨ended, ⟨t, c, stored, hc, -, ready⟩, applied⟩ :=
      settled cleared.kept cleared.claimed
    obtain ⟨d, hd⟩ := applied verdict
    refine ⟨ended, ⟨d, ?_⟩, t, stored, GrantStatus.isReady_iff.2 ⟨c, hc, ready verdict⟩⟩
    have none_applied : (Pass.endDeeds .grants r).filter Deed.applies = [] :=
      List.filter_eq_nil_iff.2 fun d hd => by
        simp [(GrantPass.quiet_endDeeds d hd).not_applies]
    rw [List.filter_append, none_applied, hd, List.append_nil]
  · intro kept claimed
    obtain ⟨-, ⟨t, c, stored, hc, reason, -⟩, -⟩ := settled kept claimed
    exact ⟨t, c, stored, hc, reason⟩

/-! ## A small cluster -/

namespace Sample

/-- A provider whose master key is held in a Secret. -/
def provider : Provider where
  metadata := { name := some "openai" }
  spec := {
    provider := .openAi
    auth := { type := .apiKey, apiKey := some { secretRef := ⟨"master", "platform", "key"⟩ } } }

/-- The Secret that holds the master key. -/
def master : Secret where
  metadata := { name := some "master", ns := some "platform" }
  data := some ((∅ : SecretData).insert "key" [115, 107])

/-- A grant that has its finalizer. -/
def grant : Grant where
  metadata := { name := some "chat", ns := some "team", finalizers := some [cleanupFinalizer] }
  spec := { provider := "openai", secretName := "chat-key" }

lemma at_home : grant.metadata.ns = some "team" := rfl

/-- A cluster with these objects and the namespace of the grant. -/
def objects : Objects where
  providers := (∅ : Std.ExtTreeMap String Provider compare).insert "openai" provider
  namespaces := (∅ : Std.ExtTreeMap String StringMap compare).insert "team" ∅
  grants := (∅ : KeyMap Grant).insert grant.key grant
  secrets := (∅ : KeyMap Secret).insert ⟨"platform", "master"⟩ master

lemma cleared : objects.Cleared grant "team" provider where
  kept := rfl
  claimed := by simp [grant, Grant.finalizers]
  found := by simp [objects, grant]
  served := ⟨∅, by simp [objects], by simp [provider]⟩
  permitted := .inl rfl
  declared := .inl ⟨rfl, rfl⟩

lemma holdsKey : objects.HoldsKey provider := by
  intro k _ hk
  obtain rfl : k = { secretRef := ⟨"master", "platform", "key"⟩ } := by
    simpa [provider, eq_comm] using hk
  exact ⟨master, by simp [objects, SecretKeyReference.secretKey], by simp [Secret.get?, master]⟩

end Sample

/-- The grant of the small cluster can be served, and is ready then. -/
theorem sample_credential_behind_gates :
    Sample.grant.metadata.ns = some "team" ∧
      ∃ ds r o' t, (reconcileGrant .epoch Sample.grant).run.Runs ds r ∧
        Sample.objects.Allows .epoch ds o' ∧
        o'.grants[Sample.grant.key]? = some { Sample.grant with status := some t } ∧
        t.IsReady := by
  obtain ⟨⟨ds, r, o', runs, allowed, undisturbed⟩, passes⟩ :=
    credential_behind_gates .epoch Sample.objects Sample.at_home
  have stored : Sample.objects.grants[Sample.grant.key]? = some Sample.grant := by
    simp [Sample.objects]
  obtain ⟨-, -, t, recorded, ready⟩ :=
    ((passes ds r o' runs allowed).2.2 stored undisturbed).1 _ Sample.cleared Sample.holdsKey
  exact ⟨Sample.at_home, ds, r, o', t, runs, allowed, recorded, ready⟩

end CredentialOperator
