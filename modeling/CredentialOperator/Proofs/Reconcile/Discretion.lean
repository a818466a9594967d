import CredentialOperator.Admission.Routes
import CredentialOperator.Proofs.Cluster.Alike
import CredentialOperator.Proofs.Reconcile.Courses
import CredentialOperator.Reconcile.Provider

/-!
# Programs that keep what they read to themselves

The operator reads Secrets in four places: it copies a master key into an artifact, looks at the
artifact that is replaced, looks at the health of an artifact, and checks the master Secret of a
provider.  What it does then depends on the metadata of the Secrets and on the keys that they hold,
never on the bytes, but for the copy of the key itself.

This is shown along the programs, one lemma for each: a pass over a grant differs in nothing but
the API key that it applies (`GrantPass.discreet_reconcileGrant`), while passes over providers and
requests for admission apply no Secret at all (`ProviderPass.discreet_reconcileProvider`,
`discreet_serveAdmission`).
-/

namespace CredentialOperator

/-! ## What can be told of alike Secrets -/

namespace Secret

variable {s t : Secret} {old old' : Option Secret}

lemma holds_eq_isSome (s : Secret) (key : String) : s.holds key = (s.get? key).isSome := by
  unfold holds get?
  cases s.data with
  | none => rfl
  | some data => simp

/-- Alike Secrets both lack a key or both hold it. -/
lemma Alike.get?_cases (h : s.Alike t) (key : String) :
    s.get? key = none ∧ t.get? key = none ∨
      ∃ v w, s.get? key = some v ∧ t.get? key = some w := by
  have held := h.holds key
  rw [holds_eq_isSome, holds_eq_isSome] at held
  cases hs : s.get? key <;> cases ht : t.get? key <;> simp_all

/-- Data under the same keys list the same keys. -/
lemma keys_eq_of_contains {a b : SecretData} (h : ∀ key, a.contains key = b.contains key) :
    a.keys = b.keys := by
  have same : (a.map fun _ _ => ()) = b.map fun _ _ => () := by
    ext key u
    have found : a[key]?.isSome = b[key]?.isSome := by simpa using h key
    cases ha : a[key]? <;> cases hb : b[key]? <;> simp_all
  calc a.keys = (a.map fun _ _ => ()).keys := Std.ExtTreeMap.keys_map.symm
    _ = (b.map fun _ _ => ()).keys := by rw [same]
    _ = b.keys := Std.ExtTreeMap.keys_map

end Secret

lemma Provisioning.discreet_namespaceOf {A : Secret → Secret → Prop} {g : Grant} :
    (Provisioning.namespaceOf g).run.Discreet A := by
  unfold Provisioning.namespaceOf
  cases g.metadata.ns with
  | none => exact discreet_throw _
  | some ns => exact discreet_pure _

namespace DirectCopy

variable {A : Secret → Secret → Prop} {now : Timestamp} {p : Provider} {g : Grant}

/-- Alike Secrets are of one age. -/
lemma isOlder_eq {old old' : Option Secret} (h : Secret.AlikeIfAny old old') (now : Timestamp)
    (limit : Delay) : isOlder now limit old = isOlder now limit old' := by
  cases h with
  | none => rfl
  | some alike => simp [isOlder, age?, alike.metadata]

lemma contains_artifactData (p : Provider) (v w : List UInt8) (key : String) :
    (artifactData p v).contains key = (artifactData p w).contains key := by
  unfold artifactData
  cases p.spec.baseUrl? <;> simp

/-- The key is copied to one place of the artifact, and the rest does not depend on it. -/
lemma artifact_alikeBut (p : Provider) (g : Grant) (ns : String) (v w : List UInt8) :
    (artifact p g ns v).AlikeBut apiKeyKey (artifact p g ns w) where
  metadata := rfl
  immutable := rfl
  stringData := rfl
  type := rfl
  data := rfl
  holds key := contains_artifactData p v w key
  others key other := by simp [get?_artifact_eq, other]

/-! ## The strategies -/

lemma discreet_provision : (provision now p g).run.Discreet (Secret.AlikeBut apiKeyKey) := by
  unfold provision
  cases p.spec.auth.apiKey with
  | none => exact discreet_throw _
  | some k =>
    refine discreet_run_bind Provisioning.discreet_namespaceOf fun ns => ?_
    refine Provisioning.alike_send_bind rfl fun master master' same => ?_
    cases same with
    | none => exact discreet_throw _
    | @some master master' same =>
      rcases same.get?_cases k.secretRef.key with ⟨hv, hw⟩ | ⟨v, w, hv, hw⟩
      · simp only [hv, hw]
        exact discreet_throw _
      · simp only [hv, hw]
        refine Provisioning.alike_send_bind rfl fun old old' olds => ?_
        refine Provisioning.alike_apply_bind (artifact_alikeBut p g ns v w) ?_
        refine .done ?_
        rw [isOlder_eq olds, Secret.keys_eq_of_contains (contains_artifactData p v w)]

lemma discreet_cleanup : (cleanup g).run.Discreet A := by
  unfold cleanup
  refine discreet_run_bind Provisioning.discreet_namespaceOf fun ns => ?_
  exact Provisioning.discreet_send_bind rfl fun _ => discreet_pure _

lemma discreet_sourceWarnings : (sourceWarnings p).run.Discreet A := by
  unfold sourceWarnings
  cases p.spec.auth.apiKey with
  | none => exact discreet_pure _
  | some k =>
    refine Program.Alike.bind (Program.alike_send rfl) fun out out' same => ?_
    cases same with
    | error e => exact .done rfl
    | ok answers =>
      have answers : Secret.AlikeIfAny _ _ := answers
      cases answers <;> exact .done rfl

lemma discreet_healthCheck : (healthCheck now p g).run.Discreet A := by
  unfold healthCheck
  refine discreet_run_bind Provisioning.discreet_namespaceOf fun ns => ?_
  refine Provisioning.alike_send_bind rfl fun secret secret' same => ?_
  cases same with
  | none => exact discreet_pure _
  | @some secret secret' same =>
    have age : age? now secret = age? now secret' := by simp [age?, same.metadata]
    simp only [same.holds, isOlder_eq (.some same), age]
    split
    · exact discreet_run_bind discreet_sourceWarnings fun _ => discreet_pure _
    · exact discreet_pure _

end DirectCopy

namespace DelegatedSync

variable {A : Secret → Secret → Prop} {now : Timestamp} {p : Provider} {g : Grant}

lemma discreet_provision : (provision now p g).run.Discreet A := by
  unfold provision
  cases p.spec.auth.externalSecret with
  | none => exact discreet_throw _
  | some config =>
    refine discreet_run_bind Provisioning.discreet_namespaceOf fun ns => ?_
    refine discreet_run_bind (.done rfl) fun built => ?_
    exact Provisioning.discreet_send_bind rfl fun _ => discreet_pure _

lemma discreet_cleanup : (cleanup g).run.Discreet A := by
  unfold cleanup
  refine discreet_run_bind Provisioning.discreet_namespaceOf fun ns => ?_
  exact Provisioning.discreet_send_bind rfl fun _ => discreet_pure _

lemma discreet_healthCheck : (healthCheck g).run.Discreet A := by
  unfold healthCheck
  refine discreet_run_bind Provisioning.discreet_namespaceOf fun ns => ?_
  refine Provisioning.discreet_send_bind rfl fun object => ?_
  cases object with
  | none => exact discreet_pure _
  | some object => exact discreet_pure _

end DelegatedSync

namespace Strategy

variable {A : Secret → Secret → Prop} {now : Timestamp} {p : Provider} {g : Grant}

lemma discreet_provision (s : Strategy) :
    (s.provision now p g).run.Discreet (Secret.AlikeBut apiKeyKey) := by
  cases s with
  | directCopy => exact DirectCopy.discreet_provision
  | delegatedSync => exact DelegatedSync.discreet_provision

lemma discreet_cleanup (s : Strategy) : (s.cleanup g).run.Discreet A := by
  cases s with
  | directCopy => exact DirectCopy.discreet_cleanup
  | delegatedSync => exact DelegatedSync.discreet_cleanup

lemma discreet_healthCheck (s : Strategy) : (s.healthCheck now p g).run.Discreet A := by
  cases s with
  | directCopy => exact DirectCopy.discreet_healthCheck
  | delegatedSync => exact DelegatedSync.discreet_healthCheck

end Strategy

/-! ## The passes -/

namespace GrantPass

variable {A : Secret → Secret → Prop} {now : Timestamp} {g : Grant} {ns : String} {p : Provider}

lemma discreet_updateStatus_bind {s : GrantStatus} {f : Bool → Pass Action}
    (rest : ∀ written, (f written).run.Discreet A) :
    (updateStatus g ns s >>= f).run.Discreet A := by
  unfold updateStatus
  split
  · exact rest false
  · rw [bind_assoc]
    exact Pass.discreet_send_bind rfl fun _ => rest true

lemma discreet_reject (r : Rejection) : (reject now g ns r).run.Discreet A := by
  refine discreet_updateStatus_bind fun written => ?_
  cases written with
  | false => exact Pass.discreet_note_bind (discreet_pure _)
  | true => exact Pass.discreet_emit_bind (Pass.discreet_note_bind (discreet_pure _))

lemma discreet_onFailed (f : ProvisionFailure) : (onFailed now g ns f).run.Discreet A := by
  refine Pass.discreet_note_bind (Pass.discreet_note_bind ?_)
  refine discreet_updateStatus_bind fun written => ?_
  cases written with
  | false => exact Pass.discreet_note_bind (discreet_pure _)
  | true => exact Pass.discreet_emit_bind (Pass.discreet_note_bind (discreet_pure _))

lemma discreet_close (s : Strategy) : (close now g ns p s).run.Discreet A := by
  refine Pass.discreet_note_bind (Pass.discreet_note_bind (Pass.discreet_note_bind ?_))
  -- whatever the look at the health finds, the pass ends in the same way
  have looked : ∀ a : Action, (do
      let _ ← ExceptT.lift (s.healthCheck now p g).run
      pure a : Pass Action).run.Discreet A :=
    fun a => discreet_lift_bind s.discreet_healthCheck fun _ => discreet_pure a
  cases (rotationOf now g p).next with
  | none => exact looked _
  | some next => exact Pass.discreet_note_bind (looked _)

lemma discreet_onProvisioned (s : Strategy) (result : ProvisionResult) :
    (onProvisioned now g ns p s result).run.Discreet A := by
  have told : (tell now g ns p s result).run.Discreet A := by
    refine discreet_updateStatus_bind fun written => ?_
    cases written with
    | false => exact discreet_close s
    | true =>
      simp only [if_true]
      split
      · exact Pass.discreet_emit_bind (discreet_close s)
      · exact discreet_close s
  rw [onProvisioned_eq]
  split
  · exact Pass.discreet_note_bind told
  · exact told

lemma discreet_serve : (serve now g ns).run.Discreet (Secret.AlikeBut apiKeyKey) := by
  refine Pass.discreet_send_bind rfl fun found => ?_
  cases found with
  | none => exact discreet_reject _
  | some p =>
    refine Pass.discreet_send_bind rfl fun labels => ?_
    cases g.gate ns p labels with
    | error r => exact discreet_reject r
    | ok s =>
      refine discreet_lift_bind s.discreet_provision fun result => ?_
      cases result with
      | ok result => exact discreet_onProvisioned s result
      | error failure => exact discreet_onFailed failure

lemma discreet_release : (release g ns).run.Discreet A := by
  unfold release
  split
  · have ended : (do
        Pass.send (.removeFinalizer ⟨ns, g.name⟩ cleanupFinalizer)
        pure .awaitChange : Pass Action).run.Discreet A :=
      Pass.discreet_send_bind rfl fun _ => discreet_pure _
    refine Pass.discreet_send_bind rfl fun found => ?_
    cases cleanupStrategy? found with
    | none => exact ended
    | some s =>
      simp only [cleanup, bind_assoc]
      refine discreet_lift_bind s.discreet_cleanup fun result => ?_
      cases result with
      | ok u => exact Pass.discreet_emit_bind ended
      | error failure =>
        simp only [bind_assoc]
        exact Pass.discreet_emit_bind (discreet_run_bind (discreet_throw _) fun _ => ended)
  · exact discreet_pure _

/-- A pass over a grant tells nothing of the bytes of Secrets, but for the copied key. -/
theorem discreet_reconcileGrant :
    (reconcileGrant now g).run.Discreet (Secret.AlikeBut apiKeyKey) := by
  refine Pass.discreet_measured ?_
  unfold body
  cases g.metadata.ns with
  | none => exact discreet_throw _
  | some ns =>
    simp only
    split
    · exact discreet_release
    · split
      · exact discreet_serve
      · exact Pass.discreet_send_bind rfl fun _ => discreet_pure _

end GrantPass

namespace ProviderPass

variable {A : Secret → Secret → Prop} {now : Timestamp} {p : Provider}

lemma ofSecret_eq {ref : SecretKeyReference}
    {out out' : (Request.checkSecret ref.secretKey).Outcome}
    (same : (Request.checkSecret ref.secretKey).OutcomeAlike out out') :
    CredentialCheck.ofSecret ref out = CredentialCheck.ofSecret ref out' := by
  cases same with
  | error e => rfl
  | @ok secret secret' answers =>
    have answers : Secret.AlikeIfAny secret secret' := answers
    cases answers with
    | none => rfl
    | some alike => simp only [CredentialCheck.ofSecret, alike.holds]

lemma discreet_checkCredential : (checkCredential p).Discreet A := by
  unfold checkCredential
  cases p.spec.auth.type with
  | apiKey =>
    cases p.spec.auth.apiKey with
    | none => exact .done rfl
    | some auth =>
      refine Program.Alike.bind (Program.alike_send rfl) fun out out' same => ?_
      rw [ofSecret_eq same]
      exact .done rfl
  | externalSecret => cases p.spec.auth.externalSecret <;> exact .done rfl
  | workloadIdentity => exact .done rfl

/-- A pass over a provider tells nothing of the bytes of Secrets, and applies none. -/
theorem discreet_reconcileProvider : (reconcileProvider now p).run.Discreet A := by
  refine Pass.discreet_measured ?_
  refine discreet_lift_bind discreet_checkCredential fun check => ?_
  refine Pass.discreet_note_bind ?_
  refine discreet_lift_bind (Program.discreet_send rfl) fun grants => ?_
  simp only
  split
  -- whether the status is written or not, an event may follow
  on_goal 1 => refine Pass.discreet_send_bind rfl fun _ => ?_
  all_goals
    cases event? p check with
    | none => exact discreet_pure _
    | some e => exact Pass.discreet_emit_bind (discreet_pure _)

end ProviderPass

/-! ## The admission server -/

namespace ReviewRequest

variable {A : Secret → Secret → Prop} {q : ReviewRequest}

lemma discreet_notes {α : Type} (m : α → Measurement) (l : List α) :
    (l.forM fun a => Program.note (m a)).Discreet A := by
  induction l with
  | nil => exact .done rfl
  | cons a l ih => exact .measure ih

lemma discreet_mutatePod : q.mutatePod.Discreet A := by
  unfold mutatePod
  cases q.object with
  | none => exact .done rfl
  | some object =>
    simp only
    cases Pod.ofJson? object.toJson with
    | none => exact .done rfl
    | some pod =>
      refine (Program.discreet_send rfl).bind fun found => ?_
      cases found with
      | error e => exact .done rfl
      | ok grants =>
        simp only [injectGrants]
        split
        · exact .done rfl
        · exact (discreet_notes _ _).bind fun _ => .done rfl

end ReviewRequest

lemma discreet_answerReview {A : Secret → Secret → Prop} {body : ByteArray}
    {answer : ReviewRequest → Program ReviewResponse} (h : ∀ q, (answer q).Discreet A) :
    (answerReview body answer).Discreet A := by
  unfold answerReview
  cases Review.parse body with
  | error f => exact .done rfl
  | ok review => exact (h review.request).bind fun _ => .done rfl

/-- The admission server reads and applies no Secrets. -/
theorem discreet_serveAdmission {A : Secret → Secret → Prop} (method target : String)
    (body : ByteArray) : (serveAdmission method target body).Discreet A := by
  unfold serveAdmission
  cases Route.ofTarget? target with
  | none => exact .done rfl
  | some route =>
    cases route with
    | pods =>
      simp only
      split
      · exact discreet_answerReview fun q => q.discreet_mutatePod
      · exact .done rfl
    | grants =>
      simp only
      split
      · exact discreet_answerReview fun q => .done rfl
      · exact .done rfl
    | health =>
      simp only
      split
      · exact .done rfl
      · split <;> exact .done rfl

end CredentialOperator
