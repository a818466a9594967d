import CredentialOperator.Proofs.Cluster.Alike
import CredentialOperator.Proofs.Reconcile.Schedule

/-!
# Grants that have settled

The operator is called again by its own writes, so a pass that comes upon what the one before it
left must write nothing more.  It finds the same about the grant (`Finds`, `Finds.agree`), and
computes a status from the stored one.  Since a condition that is entered again keeps the time of
its last transition, and a rotation that is not due leaves the dates alone, this status is as good
as the stored one, and then even equal to it.
-/

namespace CredentialOperator

/-! ## Statuses that are as good as another -/

namespace GrantStatus

variable {s t : GrantStatus}

lemma equivalent_iff : t.equivalent s = true ↔
    Condition.equivalent t.conditions s.conditions = true ∧ t.secretRef = s.secretRef ∧
      t.grantedCapabilities = s.grantedCapabilities ∧ t.lastRotation = s.lastRotation ∧
      t.nextRotation = s.nextRotation := by
  simp only [equivalent, Bool.and_eq_true, beq_iff_eq, and_assoc]

/-- Statuses that are as good as each other are equal if their conditions are. -/
lemma eq_of_equivalent (h : t.equivalent s = true) (conditions : s.conditions = t.conditions) :
    s = t := by
  obtain ⟨-, secretRef, capabilities, last, next⟩ := equivalent_iff.1 h
  obtain ⟨_, _, _, _, _⟩ := s
  obtain ⟨_, _, _, _, _⟩ := t
  simp only [GrantStatus.mk.injEq]
  exact ⟨conditions, secretRef.symm, last.symm, next.symm, capabilities.symm⟩

end GrantStatus

/-- What a pass that serves a grant finds out about it. -/
inductive Finding where
  /-- The grant is refused. -/
  | rejected (rej : Rejection)
  /-- The artifact could not be made. -/
  | failed (f : ProvisionFailure)
  /-- The artifact was made. -/
  | provisioned (p : Provider) (result : ProvisionResult)

namespace Finding

/-- What comes of an attempt to make the artifact for the credential of a provider. -/
def ofAttempt (p : Provider) : Except ProvisionFailure ProvisionResult → Finding
  | .ok result => .provisioned p result
  | .error f => .failed f

/-- The status that a pass computes from what it finds out. -/
def status (now : Timestamp) (g : Grant) : Finding → GrantStatus
  | .rejected rej => g.rejectedStatus now rej
  | .failed f => g.failedStatus now f.message
  | .provisioned p result => g.provisionedStatus now (GrantPass.rotationOf now g p) result

/-- Two passes find the same, but for what is told about the artifact. -/
def Agree : Finding → Finding → Prop
  | .rejected rej, .rejected rej' => rej' = rej
  | .failed f, .failed f' => f' = f
  | .provisioned p _, .provisioned p' _ => p' = p
  | _, _ => False

lemma agree_failed {p : Provider} {f : ProvisionFailure} :
    (ofAttempt p (.error f)).Agree (ofAttempt p (.error f)) := rfl

lemma agree_provisioned {p : Provider} {x y : ProvisionResult} :
    (ofAttempt p (.ok x)).Agree (ofAttempt p (.ok y)) := rfl

/-- A computed status that is as good as the one that the grant has is that status. -/
lemma status_of_equivalent {now : Timestamp} {g : Grant} {t : GrantStatus} (f : Finding)
    (hs : g.status = some t) (h : t.equivalent (f.status now g) = true) :
    f.status now g = t := by
  have present : g.statusOrEmpty = t := by simp [Grant.statusOrEmpty, hs]
  have types : ∀ {holds holds' : Bool} {reason reason' : GrantReason} {message message' : String},
      (g.condition now .credentialProvisioned holds reason message).type ≠
        (g.condition now .ready holds' reason' message').type := by
    simp [Grant.condition, GrantConditionType.text]
  have conditions := (GrantStatus.equivalent_iff.1 h).1
  refine GrantStatus.eq_of_equivalent h ?_
  cases f with
  | rejected rej =>
    simp only [status, Grant.rejectedStatus, Grant.enter, present] at conditions ⊢
    exact Condition.set_of_equivalent conditions
  | failed f =>
    simp only [status, Grant.failedStatus, Grant.enter, present] at conditions ⊢
    exact Condition.set_set_of_equivalent types conditions
  | provisioned p result =>
    simp only [status, Grant.provisionedStatus, Grant.enter, present] at conditions ⊢
    exact Condition.set_set_of_equivalent types conditions

lemma status_of_kept {now : Timestamp} {g : Grant} (f : Finding)
    (h : g.status.any (·.equivalent (f.status now g)) = true) :
    g.status = some (f.status now g) := by
  cases hs : g.status with
  | none => simp [hs] at h
  | some t =>
    have same : t.equivalent (f.status now g) = true := by simpa [hs] using h
    rw [f.status_of_equivalent hs same]

end Finding

/-! ## What passes find -/

namespace Deed

/-- The deed neither hands over a status nor publishes an event. -/
def Silent : Deed → Prop
  | .publish _ => False
  | .request (.patchGrantStatus _ _) _ => False
  | _ => True

lemma Silent.status? {d : Deed} (h : d.Silent) : d.status? = none := by
  cases d with
  | request r o => cases r <;> first | rfl | exact absurd h id
  | publish e => rfl
  | measure m => rfl

lemma of_status? {d : Deed} {s : GrantStatus} (h : d.status? = some s) :
    ∃ key out, d = .request (.patchGrantStatus key s) out := by
  cases d with
  | request r o =>
    cases r
    case patchGrantStatus key t =>
      cases h
      exact ⟨key, o, rfl⟩
    all_goals cases h
  | publish e => cases h
  | measure m => cases h

lemma Reads.silent {d : Deed} (h : d.Reads) : d.Silent := by
  cases d with
  | request r o => cases r <;> trivial
  | publish e => exact absurd h id
  | measure m => trivial

end Deed

lemma Strategy.Attempt.silent {s : Strategy} {now : Timestamp} {p : Provider} {g : Grant}
    {ns : String} {ds : List Deed} {r : Except ProvisionFailure ProvisionResult}
    (h : s.Attempt now p g ns ds r) : ∀ d ∈ ds, d.Silent := by
  cases s with
  | directCopy => cases h <;> simp [Deed.Silent]
  | delegatedSync => cases h <;> simp [Deed.Silent]

/-- What a program does decides how far it goes and how it ends. -/
lemma Program.Runs.unique {α : Type} {p : Program α} {ds es rest rest' : List Deed} {a b : α}
    (h : p.Runs ds a) (h' : p.Runs es b) (same : ds ++ rest = es ++ rest') :
    ds = es ∧ a = b := by
  induction h generalizing es with
  | done a =>
    obtain ⟨rfl, rfl⟩ := runs_done.1 h'
    exact ⟨rfl, rfl⟩
  | request o _ ih =>
    obtain ⟨o', es', rfl, rest'⟩ := runs_request.1 h'
    obtain ⟨first, others⟩ := List.cons.inj same
    cases first
    obtain ⟨rfl, rfl⟩ := ih rest' others
    exact ⟨rfl, rfl⟩
  | publish _ ih =>
    obtain ⟨es', rfl, rest'⟩ := runs_publish.1 h'
    obtain ⟨rfl, rfl⟩ := ih rest' (List.cons.inj same).2
    exact ⟨rfl, rfl⟩
  | measure _ ih =>
    obtain ⟨es', rfl, rest'⟩ := runs_measure.1 h'
    obtain ⟨rfl, rfl⟩ := ih rest' (List.cons.inj same).2
    exact ⟨rfl, rfl⟩

namespace GrantPass

variable {now : Timestamp} {g : Grant} {ns : String} {ds : List Deed}
  {r : Except ReconcileFailure Action}

/-- What a pass finds out about a grant in the course of its deeds. -/
inductive Finds (now : Timestamp) (g : Grant) (ns : String) : List Deed → Finding → Prop where
  /-- There is no such provider. -/
  | missing (rest : List Deed) :
      Finds now g ns (.request (.getProvider g.spec.provider) (.ok none) :: rest)
        (.rejected (.providerNotFound g.spec.provider))
  /-- The provider does not allow what is asked for. -/
  | refused {p : Provider} {labels : Option StringMap} {rej : Rejection}
      (gate : g.gate ns p labels = .error rej) (rest : List Deed) :
      Finds now g ns
        (.request (.getProvider g.spec.provider) (.ok (some p)) ::
          .request (.getNamespaceLabels ns) (.ok labels) :: rest)
        (.rejected rej)
  /-- The artifact was attempted. -/
  | attempted {p : Provider} {labels : Option StringMap} {s : Strategy} {es : List Deed}
      {outcome : Except ProvisionFailure ProvisionResult} (gate : g.gate ns p labels = .ok s)
      (attempt : (s.provision now p g).run.Runs es outcome) (rest : List Deed) :
      Finds now g ns
        (.request (.getProvider g.spec.provider) (.ok (some p)) ::
          .request (.getNamespaceLabels ns) (.ok labels) :: (es ++ rest))
        (.ofAttempt p outcome)

lemma Finds.append {f : Finding} (h : Finds now g ns ds f) (es : List Deed) :
    Finds now g ns (ds ++ es) f := by
  cases h with
  | missing rest => exact .missing _
  | refused gate rest => exact .refused gate _
  | attempted gate attempt rest =>
    rw [List.cons_append, List.cons_append, List.append_assoc]
    exact .attempted gate attempt _

/-- Nothing is found out before the provider is read, and labels of the namespace with it. -/
lemma Finds.begins {f : Finding} (h : Finds now g ns ds f) :
    ∃ found rest, ds = .request (.getProvider g.spec.provider) (.ok found) :: rest ∧
      (found ≠ none →
        ∃ labels rest', rest = .request (.getNamespaceLabels ns) (.ok labels) :: rest') := by
  cases h with
  | missing rest => exact ⟨none, rest, rfl, fun h => absurd rfl h⟩
  | refused gate rest => exact ⟨_, _, rfl, fun _ => ⟨_, _, rfl⟩⟩
  | attempted gate attempt rest => exact ⟨_, _, rfl, fun _ => ⟨_, _, rfl⟩⟩

lemma not_finds_of_providerUnread {e : ApiFailure} {f : Finding} :
    ¬ Finds now g ns (.request (.getProvider g.spec.provider) (.error e) :: ds) f := by
  intro h
  obtain ⟨found, rest, same, -⟩ := h.begins
  cases (List.cons.inj same).1

lemma not_finds_of_namespaceUnread {p : Provider} {e : ApiFailure} {f : Finding} :
    ¬ Finds now g ns
      (.request (.getProvider g.spec.provider) (.ok (some p)) ::
        .request (.getNamespaceLabels ns) (.error e) :: ds) f := by
  intro h
  obtain ⟨found, rest, same, labelled⟩ := h.begins
  obtain ⟨first, others⟩ := List.cons.inj same
  cases first
  obtain ⟨labels, rest', rfl⟩ := labelled (by simp)
  cases (List.cons.inj others).1

/-- A pass finds out one thing. -/
lemma Finds.unique {f f' : Finding} (h : Finds now g ns ds f) (h' : Finds now g ns ds f') :
    f = f' := by
  cases h with
  | missing rest => cases h'; rfl
  | refused gate rest =>
    generalize hds : _ :: _ = ds at h'
    cases h' with
    | missing _ => cases (List.cons.inj hds).1
    | refused gate' _ =>
      cases hds
      exact congrArg Finding.rejected (Except.error.inj (gate.symm.trans gate'))
    | attempted gate' _ _ =>
      cases hds
      cases gate.symm.trans gate'
  | attempted gate attempt rest =>
    generalize hds : _ :: _ = ds at h'
    cases h' with
    | missing _ => cases (List.cons.inj hds).1
    | refused gate' _ =>
      cases hds
      cases gate.symm.trans gate'
    | attempted gate' attempt' _ =>
      obtain ⟨first, tail⟩ := List.cons.inj hds
      obtain ⟨second, same⟩ := List.cons.inj tail
      cases first
      cases second
      obtain rfl := Except.ok.inj (gate.symm.trans gate')
      rw [(attempt.unique attempt' same).2]

/-- A status is kept silently, or handed over. -/
lemma Report.told {s : GrantStatus} {before news after : List Deed} {a : Action}
    (h : Report g ns s before news after a ds r)
    (silent : ∀ d, d ∈ before ∨ d ∈ after → d.Silent) (plain : ∀ d ∈ news, d.status? = none) :
    (g.status.any (·.equivalent s) = true ∧ ∀ d ∈ ds, d.Silent) ∨
      (g.status.any (·.equivalent s) = false ∧ ds.filterMap Deed.status? = [s]) := by
  have none_before : before.filterMap Deed.status? = [] :=
    List.filterMap_eq_nil_iff.2 fun d hd => (silent d (.inl hd)).status?
  have none_after : after.filterMap Deed.status? = [] :=
    List.filterMap_eq_nil_iff.2 fun d hd => (silent d (.inr hd)).status?
  have none_told : news.filterMap Deed.status? = [] := List.filterMap_eq_nil_iff.2 plain
  cases h with
  | kept h => exact .inl ⟨h, fun d hd => silent d (List.mem_append.1 hd)⟩
  | unwritten h e => exact .inr ⟨h, by simp [none_before, Deed.status?]⟩
  | written h => exact .inr ⟨h, by simp [none_before, none_after, none_told, Deed.status?]⟩

/-- How a finding is reported. -/
abbrev Reported (now : Timestamp) (g : Grant) (f : Finding) (ds : List Deed) : Prop :=
  (g.status.any (·.equivalent (f.status now g)) = true ∧ ∀ d ∈ ds, d.Silent) ∨
    (g.status.any (·.equivalent (f.status now g)) = false ∧
      ds.filterMap Deed.status? = [f.status now g])

lemma Reported.after {f : Finding} (h : Reported now g f ds) (before : List Deed)
    (silent : ∀ d ∈ before, d.Silent) : Reported now g f (before ++ ds) := by
  have none_before : before.filterMap Deed.status? = [] :=
    List.filterMap_eq_nil_iff.2 fun d hd => (silent d hd).status?
  rcases h with ⟨kept, quiet⟩ | ⟨changed, handed⟩
  · exact .inl ⟨kept, fun d hd => (List.mem_append.1 hd).elim (silent d) (quiet d)⟩
  · exact .inr ⟨changed, by simp [none_before, handed]⟩

lemma Reported.before {f : Finding} (h : Reported now g f ds) (after : List Deed)
    (silent : ∀ d ∈ after, d.Silent) : Reported now g f (ds ++ after) := by
  have none_after : after.filterMap Deed.status? = [] :=
    List.filterMap_eq_nil_iff.2 fun d hd => (silent d hd).status?
  rcases h with ⟨kept, quiet⟩ | ⟨changed, handed⟩
  · exact .inl ⟨kept, fun d hd => (List.mem_append.1 hd).elim (quiet d) (silent d)⟩
  · exact .inr ⟨changed, by simp [none_after, handed]⟩

lemma Rejected.reported {rej : Rejection} (h : Rejected now g ns rej ds r) :
    Reported now g (.rejected rej) ds :=
  h.told (by simp [Deed.Silent]) (by simp [Deed.status?])

lemma Failed.reported {f : ProvisionFailure} (h : Failed now g ns f ds r) :
    Reported now g (.failed f) ds := by
  refine h.told ?_ (by simp [Deed.status?])
  simp only [List.mem_cons, List.not_mem_nil, or_false]
  rintro d ((rfl | rfl) | rfl) <;> trivial

lemma Provisioned.reported {p : Provider} {result : ProvisionResult} {look : List Deed}
    (h : Provisioned now g ns p result look ds r) (reads : ∀ d ∈ look, d.Reads) :
    Reported now g (.provisioned p result) ds := by
  have counted : ∀ d ∈ rotationDeeds now g ns p, d.Silent := by
    unfold rotationDeeds
    split <;> simp [Deed.Silent]
  have measured : ∀ d ∈ readyDeeds now g ns p, d.Silent := by
    unfold readyDeeds
    split <;> simp [Deed.Silent]
  refine h.told ?_ ?_
  · rintro d (hd | hd)
    · exact counted d hd
    · rcases List.mem_append.1 hd with hd | hd
      · exact measured d hd
      · exact (reads d hd).silent
  · unfold readyNews
    split <;> simp [Deed.status?]

/-- How it is told what was found out. -/
def Tells (now : Timestamp) (g : Grant) (ns : String) (f : Finding) (ds : List Deed)
    (r : Except ReconcileFailure Action) : Prop :=
  match f with
  | .rejected rej => Rejected now g ns rej ds r
  | .failed e => Failed now g ns e ds r
  | .provisioned p result =>
    ∃ look, (∀ d ∈ look, d.Reads) ∧ Provisioned now g ns p result look ds r

lemma Tells.reported {f : Finding} (h : Tells now g ns f ds r) : Reported now g f ds := by
  cases f with
  | rejected rej => exact Rejected.reported h
  | failed e => exact Failed.reported h
  | provisioned p result =>
    obtain ⟨look, reads, report⟩ := h
    exact report.reported reads

/-- Serving a grant fails while it reads, before anything is found out, or tells what it finds, once
it has read what decides and attempted the artifact. -/
lemma serve_tells (hns : g.metadata.ns = some ns) (h : (serve now g ns).run.Runs ds r) :
    ((∃ e, r = .error e) ∧ (∀ d ∈ ds, d.Reads) ∧ ∀ f es, ¬ Finds now g ns (ds ++ es) f) ∨
      ∃ f lead told, ds = lead ++ told ∧ Finds now g ns ds f ∧ (∀ d ∈ lead, d.Silent) ∧
        (∀ d ∈ lead, d.Reads ∨ d.applies = true) ∧ Tells now g ns f told r := by
  unfold serve at h
  rcases Pass.runs_send_bind.1 h with ⟨e, rfl, rfl⟩ | ⟨found, ds₁, rfl, h₁⟩
  · refine .inl ⟨⟨_, rfl⟩, ?_, fun f es => not_finds_of_providerUnread⟩
    simp [Deed.Reads, Request.reads]
  cases found with
  | none =>
    refine .inr ⟨_, [_], ds₁, rfl, .missing _, ?_, ?_, rejected_of_runs h₁⟩
    · simp [Deed.Silent]
    · simp [Deed.Reads, Request.reads]
  | some p =>
    rcases Pass.runs_send_bind.1 h₁ with ⟨e, rfl, rfl⟩ | ⟨labels, ds₂, rfl, h₂⟩
    · refine .inl ⟨⟨_, rfl⟩, ?_, fun f es => not_finds_of_namespaceUnread⟩
      simp [Deed.Reads, Request.reads]
    cases gate : g.gate ns p labels with
    | error rej =>
      simp only [gate] at h₂
      refine .inr ⟨_, [_, _], ds₂, rfl, .refused gate _, ?_, ?_, rejected_of_runs h₂⟩
      · simp [Deed.Silent]
      · simp [Deed.Reads, Request.reads]
    | ok s =>
      simp only [gate, provision] at h₂
      obtain ⟨ds₃, outcome, ds₄, attempt, h₄, rfl⟩ := runs_lift_bind.1 h₂
      have made := Strategy.attempt_of_runs hns attempt
      refine .inr ⟨_, _ :: _ :: ds₃, ds₄, rfl, .attempted gate attempt _, ?_, ?_, ?_⟩
      · simpa [Deed.Silent] using made.silent
      · simpa [Deed.Reads, Request.reads] using fun d hd => made.mem hd
      · cases outcome with
        | ok result => exact provisioned_of_runs hns h₄
        | error f => exact failed_of_runs h₄

/-- Serving a grant fails silently before anything is found out, or reports what it finds. -/
lemma serve_finds (hns : g.metadata.ns = some ns) (h : (serve now g ns).run.Runs ds r) :
    ((∃ e, r = .error e) ∧ (∀ d ∈ ds, d.Silent) ∧ ∀ f es, ¬ Finds now g ns (ds ++ es) f) ∨
      ∃ f, Finds now g ns ds f ∧ Reported now g f ds := by
  rcases serve_tells hns h with
    ⟨ended, reads, nothing⟩ | ⟨f, lead, told, rfl, finds, silent, -, tells⟩
  · exact .inl ⟨ended, fun d hd => (reads d hd).silent, nothing⟩
  · exact .inr ⟨f, finds, tells.reported.after lead silent⟩

lemma pass_finds (hns : g.metadata.ns = some ns) (kept : g.isDeleting = false)
    (claimed : hasFinalizer g = true) (h : (reconcileGrant now g).run.Runs ds r) :
    ((∃ e, r = .error e) ∧ (∀ d ∈ ds, d.Silent) ∧ ∀ f, ¬ Finds now g ns ds f) ∨
      ∃ f, Finds now g ns ds f ∧ Reported now g f ds := by
  obtain ⟨ds', served, rfl⟩ := Pass.runs_measured.1 h
  have measured : ∀ d ∈ Pass.endDeeds .grants r, d.Silent := by
    cases r <;> simp [Pass.endDeeds, Deed.Silent]
  simp only [body, hns, kept, claimed, Bool.false_eq_true, if_false, if_true] at served
  rcases serve_finds hns served with ⟨ended, silent, nothing⟩ | ⟨f, finds, report⟩
  · refine .inl ⟨ended, fun d hd => ?_, fun f => nothing f _⟩
    rcases List.mem_append.1 hd with hd | hd
    · exact silent d hd
    · exact measured d hd
  · refine .inr ⟨f, finds.append _, ?_⟩
    exact report.before _ measured

end GrantPass

/-! ## Two passes -/

/-- Two runs meet the same failures as long as they send the same requests. -/
def FailTogether : List Deed → List Deed → Prop
  | .request q o :: ds, .request q' o' :: ds' =>
    q = q' → (Deed.request q o).failure? = (Deed.request q' o').failure? ∧ FailTogether ds ds'
  | _, _ => True

lemma failTogether_cons {q : Request} {o o' : q.Outcome} {ds ds' : List Deed} :
    FailTogether (.request q o :: ds) (.request q o' :: ds') ↔
      (Deed.request q o).failure? = (Deed.request q o').failure? ∧ FailTogether ds ds' := by
  simp [FailTogether]

lemma FailTogether.of_undisturbed {ds es : List Deed} (hd : Undisturbed ds)
    (he : Undisturbed es) : FailTogether ds es := by
  induction ds generalizing es with
  | nil => trivial
  | cons d ds ih =>
    cases es with
    | nil => cases d <;> trivial
    | cons e es =>
      obtain ⟨first, others⟩ := undisturbed_cons.1 hd
      obtain ⟨first', others'⟩ := undisturbed_cons.1 he
      match d, e with
      | .request q (.ok a), .request q' (.ok a') => exact fun _ => ⟨rfl, ih others others'⟩
      | .request q (.error e), _ => exact absurd Deed.fails_error first
      | .request q (.ok a), .request q' (.error e) => exact absurd Deed.fails_error first'
      | .request q (.ok a), .publish e => trivial
      | .request q (.ok a), .measure m => trivial
      | .publish e, _ => trivial
      | .measure m, _ => trivial

/-- What decides about a grant is the same in another cluster: its provider, the labels of its
namespace, and the Secret that holds the master key. -/
structure Objects.Stands (o : Objects) (g : Grant) (ns : String) (o' : Objects) : Prop where
  provider : o'.providers[g.spec.provider]? = o.providers[g.spec.provider]?
  labels : o'.namespaces[ns]? = o.namespaces[ns]?
  master : ∀ p k, o.providers[g.spec.provider]? = some p → p.spec.auth.apiKey = some k →
    o'.secrets[k.secretRef.secretKey]? = o.secrets[k.secretRef.secretKey]?

/-- A grant as it is read again after its status has been written. -/
def Grant.reread (g : Grant) (status : Option GrantStatus) (version : Option String) : Grant :=
  { g with status, metadata.resourceVersion := version }

/-- Attempts that send a request first both fail there in the same way, or both go on. -/
lemma Provisioning.send_together {β : Type} {context : String} {q : Request}
    {f f' : q.Answer → Provisioning β} {r r' : Except ProvisionFailure β}
    {ds ds' rest rest' : List Deed} (h : (Provisioning.send context q >>= f).run.Runs ds r)
    (h' : (Provisioning.send context q >>= f').run.Runs ds' r')
    (alike : FailTogether (ds ++ rest) (ds' ++ rest')) :
    (∃ e, r = .error (.cluster context e) ∧ r' = .error (.cluster context e)) ∨
      ∃ a a' es es', ds = .request q (.ok a) :: es ∧ ds' = .request q (.ok a') :: es' ∧
        (f a).run.Runs es r ∧ (f' a').run.Runs es' r' ∧
        FailTogether (es ++ rest) (es' ++ rest') := by
  rcases Provisioning.runs_send_bind.1 h with ⟨e, rfl, rfl⟩ | ⟨a, es, rfl, rest₁⟩
  · rcases Provisioning.runs_send_bind.1 h' with ⟨e', rfl, rfl⟩ | ⟨a', es', rfl, rest₂⟩
    · have same := (failTogether_cons.1 alike).1
      simp only [Deed.failure?, Option.some.injEq] at same
      subst same
      exact .inl ⟨e, rfl, rfl⟩
    · cases (failTogether_cons.1 alike).1
  · rcases Provisioning.runs_send_bind.1 h' with ⟨e', rfl, rfl⟩ | ⟨a', es', rfl, rest₂⟩
    · cases (failTogether_cons.1 alike).1
    · exact .inr ⟨a, a', es, es', rfl, rfl, rest₁, rest₂, (failTogether_cons.1 alike).2⟩

section

variable {t t' : Timestamp} {p : Provider} {g : Grant} {ns : String}
  {status : Option GrantStatus} {version : Option String} {es es' rest rest' : List Deed}
  {r r' : Except ProvisionFailure ProvisionResult} {o o₁ o' o₁' : Objects}

/-- Two attempts to copy the same master key fail in the same way, or both succeed. -/
lemma DirectCopy.provision_together (hns : g.metadata.ns = some ns)
    (h : (provision t p g).run.Runs es r)
    (h' : (provision t' p (g.reread status version)).run.Runs es' r')
    (alike : FailTogether (es ++ rest) (es' ++ rest')) (ha : o.Allows t es o₁)
    (ha' : o'.Allows t' es' o₁')
    (master : ∀ k, p.spec.auth.apiKey = some k →
      o'.secrets[k.secretRef.secretKey]? = o.secrets[k.secretRef.secretKey]?) :
    (Finding.ofAttempt p r).Agree (.ofAttempt p r') := by
  have hns' : (g.reread status version).metadata.ns = some ns := hns
  unfold provision at h h'
  cases hk : p.spec.auth.apiKey with
  | none =>
    simp only [hk, runs_throw] at h h'
    obtain ⟨-, rfl⟩ := h
    obtain ⟨-, rfl⟩ := h'
    exact Finding.agree_failed
  | some k =>
    simp only [hk, Provisioning.namespaceOf_eq hns, pure_bind] at h
    simp only [hk, Provisioning.namespaceOf_eq hns', pure_bind] at h'
    rcases Provisioning.send_together h h' alike with
      ⟨e, rfl, rfl⟩ | ⟨found, found', es₁, es₁', rfl, rfl, h₁, h₁', alike₁⟩
    · exact Finding.agree_failed
    -- both read the master Secret of the provider, which is the same in either cluster
    obtain rfl : found = found' := by
      have read : o.secrets[k.secretRef.secretKey]? = found := ha.1
      have read' : o'.secrets[k.secretRef.secretKey]? = found' := ha'.1
      rw [← read, ← read', master k hk]
    cases found with
    | none =>
      obtain ⟨-, rfl⟩ := runs_throw.1 h₁
      obtain ⟨-, rfl⟩ := runs_throw.1 h₁'
      exact Finding.agree_failed
    | some secret =>
      cases hv : secret.get? k.secretRef.key with
      | none =>
        simp only [hv, runs_throw] at h₁ h₁'
        obtain ⟨-, rfl⟩ := h₁
        obtain ⟨-, rfl⟩ := h₁'
        exact Finding.agree_failed
      | some value =>
        simp only [hv] at h₁ h₁'
        rcases Provisioning.send_together h₁ h₁' alike₁ with
          ⟨e, rfl, rfl⟩ | ⟨old, old', es₂, es₂', rfl, rfl, h₂, h₂', alike₂⟩
        · exact Finding.agree_failed
        rcases Provisioning.send_together h₂ h₂' alike₂ with
          ⟨e, rfl, rfl⟩ | ⟨_, _, es₃, es₃', rfl, rfl, h₃, h₃', -⟩
        · exact Finding.agree_failed
        obtain ⟨-, rfl⟩ := runs_pure.1 h₃
        obtain ⟨-, rfl⟩ := runs_pure.1 h₃'
        exact Finding.agree_provisioned

/-- Two attempts to leave the copy to the External Secrets Operator fail in the same way, or both
succeed. -/
lemma DelegatedSync.provision_together (hns : g.metadata.ns = some ns)
    (h : (provision t p g).run.Runs es r)
    (h' : (provision t' p (g.reread status version)).run.Runs es' r')
    (alike : FailTogether (es ++ rest) (es' ++ rest')) :
    (Finding.ofAttempt p r).Agree (.ofAttempt p r') := by
  have hns' : (g.reread status version).metadata.ns = some ns := hns
  unfold provision at h h'
  cases hc : p.spec.auth.externalSecret with
  | none =>
    simp only [hc, runs_throw] at h h'
    obtain ⟨-, rfl⟩ := h
    obtain ⟨-, rfl⟩ := h'
    exact Finding.agree_failed
  | some c =>
    obtain ⟨built, hb, -⟩ := (syncRequest c g).build_ok ns g.spec.secretName (g.artifactLabels p)
    have hb' : (syncRequest c (g.reread status version)).build ns
        (g.reread status version).spec.secretName ((g.reread status version).artifactLabels p) =
          .ok built := hb
    simp only [hc, Provisioning.namespaceOf_eq hns, pure_bind, hb] at h
    simp only [hc, Provisioning.namespaceOf_eq hns', pure_bind, hb'] at h'
    rcases Provisioning.send_together h h' alike with
      ⟨e, rfl, rfl⟩ | ⟨_, _, es₁, es₁', rfl, rfl, h₁, h₁', -⟩
    · exact Finding.agree_failed
    · obtain ⟨-, rfl⟩ := runs_pure.1 h₁
      obtain ⟨-, rfl⟩ := runs_pure.1 h₁'
      exact Finding.agree_provisioned

end

/-- An attempt that succeeds has written an artifact. -/
lemma Strategy.Attempt.applied {s : Strategy} {now : Timestamp} {p : Provider} {g : Grant}
    {ns : String} {ds : List Deed} {result : ProvisionResult}
    (h : s.Attempt now p g ns ds (.ok result)) : ∃ d ∈ ds, d.Applied := by
  cases s with
  | directCopy =>
    cases h
    simp [Deed.Applied, Request.applies]
  | delegatedSync =>
    cases h
    simp [Deed.Applied, Request.applies]

namespace GrantPass

variable {t t' : Timestamp} {g : Grant} {ns : String} {ds ds' : List Deed} {f f' : Finding}
  {status : Option GrantStatus} {version : Option String} {o o₁ o' o₁' : Objects}

/-- What a pass finds out is decided by what the cluster holds, and by the attempt. -/
lemma Finds.read (h : Finds t g ns ds f) (ha : o.Allows t ds o₁) :
    (o.providers[g.spec.provider]? = none ∧ f = .rejected (.providerNotFound g.spec.provider)) ∨
    (∃ p rej, o.providers[g.spec.provider]? = some p ∧
      g.gate ns p o.namespaces[ns]? = .error rej ∧ f = .rejected rej) ∨
    ∃ p s es rest outcome o₂, o.providers[g.spec.provider]? = some p ∧
      g.gate ns p o.namespaces[ns]? = .ok s ∧ (s.provision t p g).run.Runs es outcome ∧
      o.Allows t es o₂ ∧ f = .ofAttempt p outcome ∧
      ds = .request (.getProvider g.spec.provider) (.ok (some p)) ::
        .request (.getNamespaceLabels ns) (.ok o.namespaces[ns]?) :: (es ++ rest) := by
  cases h with
  | missing rest => exact .inl ⟨ha.1, rfl⟩
  | @refused p labels rej gate rest =>
    obtain rfl : o.namespaces[ns]? = labels := ha.2.1
    exact .inr (.inl ⟨p, rej, ha.1, gate, rfl⟩)
  | @attempted p labels s es outcome gate attempt rest =>
    obtain rfl : o.namespaces[ns]? = labels := ha.2.1
    obtain ⟨o₂, tried, -⟩ := Objects.allows_append.1 ha.2.2
    exact .inr (.inr ⟨p, s, es, rest, outcome, o₂, ha.1, gate, attempt, tried, rfl, rfl⟩)

/-- Two passes over a grant find the same if nothing that decides about it has changed and the
same requests fail. -/
lemma Finds.agree (hns : g.metadata.ns = some ns) (h : Finds t g ns ds f)
    (h' : Finds t' (g.reread status version) ns ds' f') (alike : FailTogether ds ds')
    (ha : o.Allows t ds o₁) (ha' : o'.Allows t' ds' o₁') (stands : o.Stands g ns o') :
    f.Agree f' := by
  have second := h'.read ha'
  have request : (g.reread status version).spec = g.spec := rfl
  rw [request, stands.provider, stands.labels] at second
  rcases h.read ha with ⟨missing, rfl⟩ | ⟨p, rej, found, gate, rfl⟩ |
      ⟨p, s, es, rest, outcome, _, found, gate, attempt, tried, rfl, rfl⟩
  · rcases second with ⟨-, rfl⟩ | ⟨_, _, found', -⟩ | ⟨_, _, _, _, _, _, found', -⟩
    · rfl
    · cases missing.symm.trans found'
    · cases missing.symm.trans found'
  · rcases second with ⟨missing', -⟩ | ⟨p', rej', found', gate', rfl⟩ |
        ⟨p', _, _, _, _, _, found', gate', -⟩
    · cases missing'.symm.trans found
    · obtain rfl := Option.some.inj (found.symm.trans found')
      exact Except.error.inj (gate'.symm.trans gate)
    · obtain rfl := Option.some.inj (found.symm.trans found')
      cases gate.symm.trans gate'
  · rcases second with ⟨missing', -⟩ | ⟨p', rej', found', gate', -⟩ |
        ⟨p', s', es', rest', outcome', _, found', gate', attempt', tried', rfl, rfl⟩
    · cases missing'.symm.trans found
    · obtain rfl := Option.some.inj (found.symm.trans found')
      cases gate.symm.trans gate'
    · obtain rfl := Option.some.inj (found.symm.trans found')
      obtain rfl := Except.ok.inj (gate.symm.trans gate')
      have after := (failTogether_cons.1 (failTogether_cons.1 alike).2).2
      cases s with
      | directCopy =>
        exact DirectCopy.provision_together hns attempt attempt' after tried tried'
          fun k hk => stands.master p k found hk
      | delegatedSync => exact DelegatedSync.provision_together hns attempt attempt' after

/-- A pass that finds that the artifact was made has written it where the grant wants it. -/
lemma Finds.made {p : Provider} {result : ProvisionResult} (hns : g.metadata.ns = some ns)
    (h : Finds t g ns ds (.provisioned p result)) :
    (∃ d ∈ ds, d.Applied) ∧ result.ns = ns ∧ result.name = g.spec.secretName := by
  generalize hf : Finding.provisioned p result = f at h
  cases h with
  | missing _ => cases hf
  | refused _ _ => cases hf
  | @attempted p' _ _ _ outcome _ attempt _ =>
    cases outcome with
    | error e => cases hf
    | ok result' =>
      cases hf
      have made := Strategy.attempt_of_runs hns attempt
      obtain ⟨d, hd, applied⟩ := made.applied
      exact ⟨⟨d, by simp [hd], applied⟩, made.target⟩

end GrantPass

namespace Grant

variable {g : Grant} {now now' : Timestamp} {version : Option String}

/-- A grant that is refused again is not told so. -/
lemma equivalent_rejectedStatus (rej : Rejection) :
    (g.rejectedStatus now rej).equivalent
      ((g.reread (some (g.rejectedStatus now rej)) version).rejectedStatus now' rej) = true := by
  refine GrantStatus.equivalent_iff.2 ⟨?_, rfl, rfl, rfl, rfl⟩
  exact Condition.equivalent_set_again (sameState_condition now now')

/-- A grant whose artifact cannot be made is told so once. -/
lemma equivalent_failedStatus (message : String) :
    (g.failedStatus now message).equivalent
      ((g.reread (some (g.failedStatus now message)) version).failedStatus now' message) =
        true := by
  refine GrantStatus.equivalent_iff.2 ⟨?_, rfl, rfl, rfl, rfl⟩
  refine Condition.equivalent_set_set_again ?_ (sameState_condition now now')
    (sameState_condition now now')
  simp [condition, GrantConditionType.text]

lemma nextRotation_provisionedStatus {rotation : Rotation} {result : ProvisionResult} :
    (g.provisionedStatus now rotation result).nextRotation = rotation.next := rfl

end Grant

/-- The dates of the schedule stay as they are until the next rotation is due. -/
lemma Rotation.plan_of_early {t t' : Timestamp} {s s' : GrantStatus} {i : Option Interval}
    (last : s'.lastRotation = some (plan t s i).last)
    (early : ∀ n, s'.nextRotation = some n → t' < n) :
    (plan t' s' i).last = (plan t s i).last ∧ (plan t' s' i).next = (plan t s i).next := by
  have waiting : isDue t' s' = false := by
    unfold isDue
    cases hn : s'.nextRotation with
    | none => rfl
    | some n => exact decide_eq_false (early n hn)
  have same : lastAt t' s' = lastAt t s := by
    rw [lastAt, last]
    simp [waiting, plan]
  exact ⟨same, congrArg (nextAfter · i) same⟩

namespace Finding

/-- What is found again is as good as reported, unless a rotation has become due. -/
lemma Agree.equivalent {t t' : Timestamp} {g : Grant} {ns : String} {ds ds' : List Deed}
    {f f' : Finding} {version : Option String} (h : f.Agree f') (hns : g.metadata.ns = some ns)
    (finds : GrantPass.Finds t g ns ds f)
    (finds' : GrantPass.Finds t' (g.reread (some (f.status t g)) version) ns ds' f')
    (early : (∃ d ∈ ds, d.Applied) → ∀ n, (f.status t g).nextRotation = some n → t' < n) :
    (f.status t g).equivalent
      (f'.status t' (g.reread (some (f.status t g)) version)) = true := by
  cases f with
  | rejected rej =>
    cases f' with
    | rejected rej' =>
      obtain rfl : rej' = rej := h
      exact Grant.equivalent_rejectedStatus rej'
    | failed _ | provisioned _ _ => exact absurd h id
  | failed e =>
    cases f' with
    | failed e' =>
      obtain rfl : e' = e := h
      exact Grant.equivalent_failedStatus e'.message
    | rejected _ | provisioned _ _ => exact absurd h id
  | provisioned p result =>
    cases f' with
    | provisioned p' result' =>
      obtain rfl : p' = p := h
      obtain ⟨applied, place, name⟩ := finds.made hns
      let s := (Finding.provisioned p' result).status t g
      have hns' : (g.reread (some s) version).metadata.ns = some ns := hns
      obtain ⟨-, place', name'⟩ := finds'.made hns'
      have like : g.SameRequest (g.reread (some s) version) := ⟨rfl, rfl, rfl, rfl⟩
      have recorded : s.lastRotation = some (GrantPass.rotationOf t g p').last := rfl
      obtain ⟨last, next⟩ := Rotation.plan_of_early recorded (early applied)
      refine Grant.equivalent_provisionedStatus t' rfl ?_ ?_ ?_ place' name'
      · exact like.recorded.1 (Grant.recorded_provisionedStatus place name)
      · exact congrArg some last.symm
      · exact next.symm
    | rejected _ | failed _ => exact absurd h id

end Finding

/-- After a pass that ends well the grant has the status that was computed from the finding. -/
lemma GrantPass.Reported.statusAfter {now : Timestamp} {g : Grant} {ds : List Deed} {f : Finding}
    (h : Reported now g f ds) : statusAfter g.status ds = some (f.status now g) := by
  rcases h with ⟨kept, silent⟩ | ⟨-, handed⟩
  · rw [statusAfter_of_none (List.filterMap_eq_nil_iff.2 fun d hd => (silent d hd).status?)]
    exact f.status_of_kept kept
  · exact statusAfter_of_single handed

lemma GrantPass.Reported.handed_eq {now : Timestamp} {g : Grant} {ds : List Deed} {f : Finding}
    {key : ObjectKey} {s : GrantStatus} {out : Except ApiFailure Unit} (h : Reported now g f ds)
    (hd : .request (.patchGrantStatus key s) out ∈ ds) : s = f.status now g := by
  rcases h with ⟨-, silent⟩ | ⟨-, handed⟩
  · exact absurd (silent _ hd) id
  · have mem : s ∈ ds.filterMap Deed.status? := List.mem_filterMap.2 ⟨_, hd, rfl⟩
    rwa [handed, List.mem_singleton] at mem

/-- A grant that has settled is left alone.  Let a pass end well over a grant that is to be kept
and has its finalizer.  A later pass over what it left, in a cluster where nothing that decides
about the grant has changed and the same requests fail, before the next rotation if the first pass
made the artifact, neither hands over a status nor publishes an event.  A pass that ends well finds
one thing about the grant, and whenever it hands over no status, the one that it computes from
this is exactly the one that the grant has. -/
theorem settled_grant_left_alone {g : Grant} {ns : String} (hns : g.metadata.ns = some ns)
    (kept : g.metadata.deletionTimestamp = none) (claimed : cleanupFinalizer ∈ g.finalizers) :
    (∀ t ds a (o o₁ : Objects) t' version ds' r (o' o₁' : Objects),
      (reconcileGrant t g).run.Runs ds (.ok a) → o.Allows t ds o₁ →
      (reconcileGrant t' (g.reread (statusAfter g.status ds) version)).run.Runs ds' r →
      o'.Allows t' ds' o₁' → o.Stands g ns o' → FailTogether ds ds' →
      ((∃ d ∈ ds, d.Applied) → ∀ s next, statusAfter g.status ds = some s →
        s.nextRotation = some next → t' < next) →
      (∀ key s out, .request (.patchGrantStatus key s) out ∉ ds') ∧ ∀ e, .publish e ∉ ds') ∧
    ∀ now ds r, (reconcileGrant now g).run.Runs ds r →
      ((∃ a, r = .ok a) → ∃! f, GrantPass.Finds now g ns ds f) ∧
      ∀ f, GrantPass.Finds now g ns ds f →
        (∀ key s out, .request (.patchGrantStatus key s) out ∉ ds) →
        g.status = some (f.status now g) := by
  have kept : g.isDeleting = false := by simp [Grant.isDeleting, kept]
  have claimed : GrantPass.hasFinalizer g = true := by simpa [GrantPass.hasFinalizer] using claimed
  have silently : ∀ {ds : List Deed}, (∀ d ∈ ds, d.Silent) →
      (∀ key s out, Deed.request (.patchGrantStatus key s) out ∉ ds) ∧
        ∀ e, Deed.publish e ∉ ds :=
    fun silent => ⟨fun key s out hd => silent _ hd, fun e hd => silent _ hd⟩
  refine ⟨?_, ?_⟩
  · intro t ds a o o₁ t' version ds' r o' o₁' runs allowed runs' allowed' stands alike early
    rcases GrantPass.pass_finds hns kept claimed runs with ⟨⟨_, failed⟩, -⟩ | ⟨f, finds, report⟩
    · cases failed
    rw [report.statusAfter] at runs' early
    -- what makes the grant one that is served is no part of its status
    have hns' : (g.reread (some (f.status t g)) version).metadata.ns = some ns := hns
    have kept' : (g.reread (some (f.status t g)) version).isDeleting = false := kept
    have claimed' : GrantPass.hasFinalizer (g.reread (some (f.status t g)) version) = true :=
      claimed
    rcases GrantPass.pass_finds hns' kept' claimed' runs' with
      ⟨-, silent, -⟩ | ⟨f', finds', report'⟩
    · exact silently silent
    have agree := finds.agree hns finds' alike allowed allowed' stands
    have same := agree.equivalent hns finds finds' fun applied n => early applied _ n rfl
    rcases report' with ⟨-, silent⟩ | ⟨changed, -⟩
    · exact silently silent
    · cases changed.symm.trans same
  · intro now ds r runs
    rcases GrantPass.pass_finds hns kept claimed runs with
      ⟨⟨_, rfl⟩, -, nothing⟩ | ⟨f, finds, report⟩
    · refine ⟨?_, fun f finds => absurd finds (nothing f)⟩
      rintro ⟨_, succeeded⟩
      cases succeeded
    · refine ⟨fun _ => ⟨f, finds, fun f' finds' => finds'.unique finds⟩, ?_⟩
      intro f' finds' unwritten
      obtain rfl := finds.unique finds'
      rcases report with ⟨same, -⟩ | ⟨-, handed⟩
      · exact f.status_of_kept same
      · have mem : f.status now g ∈ ds.filterMap Deed.status? := by simp [handed]
        obtain ⟨d, hd, given⟩ := List.mem_filterMap.1 mem
        obtain ⟨key, out, rfl⟩ := Deed.of_status? given
        exact absurd hd (unwritten key _ out)

namespace Sample

lemma rotating_at_home : rotating.metadata.ns = some "team" := rfl

/-- An undisturbed pass over the grant of the small cluster makes its artifact, and puts the first
rotation an hour later. -/
lemma makes_artifact : ∃ ds a o' s, (reconcileGrant .epoch rotating).run.Runs ds (.ok a) ∧
    objects.Allows .epoch ds o' ∧ Undisturbed ds ∧ statusAfter none ds = some s ∧
    s.nextRotation = some hour := by
  obtain ⟨ds, r, o', runs, allowed, undisturbed⟩ :=
    objects.exists_undisturbed .epoch (reconcileGrant .epoch rotating).run
  have reported := GrantPass.pass_finds rotating_at_home rfl (by decide) runs
  obtain ⟨course_ds, course, course_allowed, rfl⟩ := GrantPass.course_of_allowed runs allowed
  have serving := course.serving_of_claimed rotating_at_home rfl (by decide)
  obtain ⟨result, look, told, -, report, told_in, calm⟩ :=
    serving.made_of_cleared cleared_rotating holdsKey (undisturbed_append.1 undisturbed).1
      course_allowed
  let s := rotating.provisionedStatus .epoch (GrantPass.rotationOf .epoch rotating provider) result
  have planned : (GrantPass.rotationOf .epoch rotating provider).next = some hour := by
    rw [GrantPass.rotationOf, interval_rotating]
    decide
  have next : s.nextRotation = some hour := by rw [← planned, Grant.nextRotation_provisionedStatus]
  have unknown : rotating.status = none := rfl
  cases report with
  | kept h => simp [unknown] at h
  | unwritten h e =>
    have failed := (undisturbed_append.1 calm).2
    exact absurd Deed.fails_error (undisturbed_cons.1 failed).1
  | written h =>
    have written := told_in _ (List.mem_append_right _ (List.mem_cons_self ..))
    rcases reported with ⟨⟨_, failed⟩, -⟩ | ⟨f, -, report⟩
    · cases failed
    · refine ⟨_, _, o', s, runs, allowed, undisturbed, ?_, next⟩
      have handed : s = f.status .epoch rotating :=
        report.handed_eq (List.mem_append_left _ written)
      rw [handed]
      exact report.statusAfter

/-- Half an hour after the beginning of 1970. -/
def halfHour : Timestamp := { Timestamp.epoch with seconds := 1800 }

end Sample

/-- In the small cluster, a pass half an hour later finds nothing to tell. -/
theorem sample_settled_grant_left_alone :
    Sample.rotating.metadata.ns = some "team" ∧
      Sample.rotating.metadata.deletionTimestamp = none ∧
      cleanupFinalizer ∈ Sample.rotating.finalizers ∧
      ∃ ds a o₁ ds' r o₁', (reconcileGrant .epoch Sample.rotating).run.Runs ds (.ok a) ∧
        Sample.objects.Allows .epoch ds o₁ ∧
        (reconcileGrant Sample.halfHour
          (Sample.rotating.reread (statusAfter none ds) none)).run.Runs ds' r ∧
        Sample.objects.Allows Sample.halfHour ds' o₁' ∧ FailTogether ds ds' ∧
        (∃ key s out, .request (.patchGrantStatus key s) out ∈ ds) ∧
        (∀ key s out, .request (.patchGrantStatus key s) out ∉ ds') ∧ ∀ e, .publish e ∉ ds' := by
  have claimed : cleanupFinalizer ∈ Sample.rotating.finalizers := by decide
  obtain ⟨ds, a, o₁, s, runs, allowed, undisturbed, after, next⟩ := Sample.makes_artifact
  obtain ⟨ds', r, o₁', runs', allowed', undisturbed'⟩ :=
    Sample.objects.exists_undisturbed Sample.halfHour
      (reconcileGrant Sample.halfHour (Sample.rotating.reread (statusAfter none ds) none)).run
  have alike := FailTogether.of_undisturbed undisturbed undisturbed'
  have early : ∀ t n, statusAfter none ds = some t → t.nextRotation = some n →
      Sample.halfHour < n := by
    rintro t n ht hn
    obtain rfl := Option.some.inj (after.symm.trans ht)
    obtain rfl := Option.some.inj (next.symm.trans hn)
    decide
  have handed : ∃ key s out, Deed.request (.patchGrantStatus key s) out ∈ ds := by
    have last : (ds.filterMap Deed.status?).getLast? = some s := by simpa [statusAfter] using after
    obtain ⟨d, hd, given⟩ := List.mem_filterMap.1 (List.mem_of_getLast? last)
    obtain ⟨key, out, rfl⟩ := Deed.of_status? given
    exact ⟨key, s, out, hd⟩
  refine ⟨Sample.rotating_at_home, rfl, claimed, ds, a, o₁, ds', r, o₁', runs, allowed, runs',
    allowed', alike, handed, ?_⟩
  exact (settled_grant_left_alone Sample.rotating_at_home rfl claimed).1 _ ds a _ o₁ _ none ds' r
    _ o₁' runs allowed runs' allowed' ⟨rfl, rfl, fun _ _ _ _ => rfl⟩ alike fun _ => early

end CredentialOperator
