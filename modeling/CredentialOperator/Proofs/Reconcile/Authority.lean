import CredentialOperator.Proofs.Reconcile.Footprint
import CredentialOperator.Proofs.Reconcile.Outcomes

/-!
# Blocks of authentication that are not in use

A provider names one type of authentication and may have a block for each; the others are left over
from earlier times.  Two providers that differ in such blocks alone (`Provider.SameInUse`) are
checked in the same way, refuse the same grants, and lead to the same artifacts: the programs are
the same, one by one.

There is one exception.  The interval between rotations is taken from the block for keys held in a
Secret whichever block is in use.  So a pass that reads one provider can go on with the other in
exactly the same way unless it makes an artifact and the two would put the next rotation at
different times; this does occur (`idle_block_governs_rotation`).
-/

namespace CredentialOperator

/-- Two providers are equal but for the blocks that their type of authentication does not name. -/
inductive Provider.SameInUse (p : Provider) : Provider → Prop where
  /-- Keys are held in a Secret. -/
  | apiKey (type : p.spec.auth.type = .apiKey) (e : Option ExternalSecretAuth)
      (w : Option WorkloadIdentityAuth) :
      SameInUse p { p with spec.auth.externalSecret := e, spec.auth.workloadIdentity := w }
  /-- Values are held in an external store. -/
  | externalSecret (type : p.spec.auth.type = .externalSecret) (k : Option ApiKeyAuth)
      (w : Option WorkloadIdentityAuth) :
      SameInUse p { p with spec.auth.apiKey := k, spec.auth.workloadIdentity := w }
  /-- Workloads have identities. -/
  | workloadIdentity (type : p.spec.auth.type = .workloadIdentity) (k : Option ApiKeyAuth)
      (e : Option ExternalSecretAuth) :
      SameInUse p { p with spec.auth.apiKey := k, spec.auth.externalSecret := e }

namespace Provider.SameInUse

variable {now : Timestamp} {p q : Provider} {g : Grant} {ns : String} {s : Strategy}

lemma name_eq (h : p.SameInUse q) : q.name = p.name := by
  cases h <;> rfl

lemma status_eq (h : p.SameInUse q) : q.status = p.status := by
  cases h <;> rfl

lemma ofProvider?_eq (h : p.SameInUse q) : Strategy.ofProvider? q = Strategy.ofProvider? p := by
  cases h <;> rfl

/-! ### Programs that are the same -/

lemma checkCredential_eq (h : p.SameInUse q) : checkCredential q = checkCredential p := by
  cases h with
  | apiKey type _ _ | externalSecret type _ _ | workloadIdentity type _ _ =>
    simp only [checkCredential, type]

/-- But for the check, a pass over a provider does not look at any block. -/
lemma reconcileProvider_eq (h : p.SameInUse q) :
    reconcileProvider now q = reconcileProvider now p := by
  have checked := h.checkCredential_eq
  simp only [reconcileProvider, ProviderPass.body, checked]
  cases h <;> rfl

lemma gate_eq (h : p.SameInUse q) (labels : Option StringMap) :
    g.gate ns q labels = g.gate ns p labels := by
  cases h <;> rfl

lemma provision_eq (h : p.SameInUse q) (hs : Strategy.ofProvider? p = some s) :
    s.provision now q g = s.provision now p g := by
  have type := Strategy.ofProvider?_eq_some_iff.1 hs
  cases s with
  | directCopy =>
    cases h with
    | apiKey _ _ _ => rfl
    | externalSecret other _ _ | workloadIdentity other _ _ => cases other.symm.trans type
  | delegatedSync =>
    cases h with
    | externalSecret _ _ _ => rfl
    | apiKey other _ _ | workloadIdentity other _ _ => cases other.symm.trans type

lemma healthCheck_eq (h : p.SameInUse q) (hs : Strategy.ofProvider? p = some s) :
    s.healthCheck now q g = s.healthCheck now p g := by
  have type := Strategy.ofProvider?_eq_some_iff.1 hs
  cases s with
  | directCopy =>
    cases h with
    | apiKey _ _ _ => rfl
    | externalSecret other _ _ | workloadIdentity other _ _ => cases other.symm.trans type
  | delegatedSync => rfl

end Provider.SameInUse

/-- If the same date follows, a pass comes back at the same time. -/
lemma Rotation.wake_congr (now : Timestamp) {last : Timestamp} {i j : Option Interval}
    (same : nextAfter last j = nextAfter last i) :
    wake now j (nextAfter last i) = wake now i (nextAfter last i) := by
  cases hn : nextAfter last i with
  | none => cases i <;> cases j <;> rfl
  | some next =>
    obtain ⟨⟨n⟩, rfl, hi⟩ := Option.bind_eq_some_iff.1 hn
    obtain ⟨⟨m⟩, rfl, hj⟩ := Option.bind_eq_some_iff.1 (same.trans hn)
    have after : next.seconds = last.seconds + n := Timestamp.seconds_of_addSeconds? hi
    have after' : next.seconds = last.seconds + m := Timestamp.seconds_of_addSeconds? hj
    obtain rfl : n = m := by omega
    rfl

namespace GrantPass

variable {now : Timestamp} {p q : Provider} {g : Grant} {ns : String} {s : Strategy}
  {found : Option Provider} {ds rest : List Deed} {r : Except ReconcileFailure Action}

lemma rotationOf_congr (next : (rotationOf now g q).next = (rotationOf now g p).next) :
    rotationOf now g q = rotationOf now g p := by
  simpa [rotationOf, Rotation.plan] using next

lemma provision_congr (h : p.SameInUse q) (hs : Strategy.ofProvider? p = some s)
    (next : (rotationOf now g q).next = (rotationOf now g p).next) :
    provision now g ns q s = provision now g ns p s := by
  have made : ∀ result, onProvisioned now g ns q s result = onProvisioned now g ns p s result := by
    intro result
    have wakes : Rotation.wake now (rotationInterval? g.spec q.spec) (rotationOf now g p).next =
        Rotation.wake now (rotationInterval? g.spec p.spec) (rotationOf now g p).next :=
      Rotation.wake_congr now next
    simp only [onProvisioned_eq, tell, close, rotationOf_congr next, h.name_eq,
      h.healthCheck_eq hs, wakes]
  simp only [provision, h.provision_eq hs, made]

/-! ### After the provider was read -/

/-- What a pass does about a grant that is to be served, once it has found the provider. -/
def serveFrom (now : Timestamp) (g : Grant) (ns : String) (p : Provider) : Pass Action := do
  let labels ← Pass.send (.getNamespaceLabels ns)
  match g.gate ns p labels with
  | .error rej => reject now g ns rej
  | .ok s => provision now g ns p s

/-- What a pass does about a grant with its finalizer, once it has asked for the provider. -/
def attend (now : Timestamp) (g : Grant) (ns : String) (found : Option Provider) : Pass Action :=
  if g.isDeleting then do
    if let some s := cleanupStrategy? found then
      cleanup g ns s
    Pass.send (.removeFinalizer ⟨ns, g.name⟩ cleanupFinalizer)
    pure .awaitChange
  else
    match found with
    | none => reject now g ns (.providerNotFound g.spec.provider)
    | some p => serveFrom now g ns p

lemma body_eq_attend (hns : g.metadata.ns = some ns) (claimed : hasFinalizer g = true) :
    body now g = Pass.send (.getProvider g.spec.provider) >>= attend now g ns := by
  cases hd : g.isDeleting with
  | true =>
    simp only [body, hns, hd, release, claimed, if_true]
    refine bind_congr fun found => Eq.trans ?_ (if_pos hd).symm
    cases cleanupStrategy? found <;> rfl
  | false =>
    simp only [body, hns, hd, claimed, if_true, Bool.false_eq_true, if_false]
    refine bind_congr fun found => Eq.trans ?_ (if_neg (by simp [hd])).symm
    cases found <;> rfl

/-- A grant whose provider is asked for has its finalizer. -/
lemma claimed_of_reading
    (h : (reconcileGrant now g).run.Runs
      (.request (.getProvider g.spec.provider) (.ok found) :: rest) r) :
    ∃ ns, g.metadata.ns = some ns ∧ hasFinalizer g = true := by
  obtain ⟨es, course, same⟩ := course_of_runs h
  cases course with
  | homeless _ | released _ _ _ => simp [Pass.endDeeds] at same
  | claiming _ _ _ _ => cases (List.cons.inj same).1
  | releasing hns _ hf _ | serving hns _ hf _ => exact ⟨_, hns, hf⟩

/-- Once the provider was read, the pass goes on from there. -/
lemma runs_reading (hns : g.metadata.ns = some ns) (claimed : hasFinalizer g = true) :
    (reconcileGrant now g).run.Runs
        (.request (.getProvider g.spec.provider) (.ok found) :: rest) r ↔
      ∃ es, (attend now g ns found).run.Runs es r ∧ rest = es ++ Pass.endDeeds .grants r := by
  rw [reconcileGrant, Pass.runs_measured, body_eq_attend hns claimed]
  constructor
  · rintro ⟨ds, h, same⟩
    rcases Pass.runs_send_bind.1 h with ⟨e, rfl, -⟩ | ⟨found', es, rfl, rest⟩
    · cases (List.cons.inj same).1
    · obtain ⟨first, rfl⟩ := List.cons.inj same
      cases first
      exact ⟨es, rest, rfl⟩
  · rintro ⟨es, h, rfl⟩
    exact ⟨_, Pass.runs_send_bind.2 (.inr ⟨found, es, rfl, h⟩), rfl⟩

/-- What is done after one provider was read can be done after the other, unless an artifact is made
and a different date follows. -/
lemma runs_serveFrom (h : p.SameInUse q) (runs : (serveFrom now g ns p).run.Runs ds r)
    (next : ∀ result,
      Finds now g ns (.request (.getProvider g.spec.provider) (.ok (some p)) :: ds)
        (.provisioned p result) → (rotationOf now g q).next = (rotationOf now g p).next) :
    (serveFrom now g ns q).run.Runs ds r := by
  rcases Pass.runs_send_bind.1 runs with ⟨e, rfl, rfl⟩ | ⟨labels, es, rfl, rest⟩
  · exact Pass.runs_send_bind.2 (.inl ⟨e, rfl, rfl⟩)
  refine Pass.runs_send_bind.2 (.inr ⟨labels, es, rfl, ?_⟩)
  rw [h.gate_eq]
  cases gate : g.gate ns p labels with
  | error rej => simpa only [gate] using rest
  | ok s =>
    have hs := (Grant.gate_ok_iff.1 gate).2.2
    simp only [gate] at rest ⊢
    obtain ⟨ds₁, outcome, ds₂, attempt, told, rfl⟩ := runs_lift_bind.1 rest
    cases outcome with
    | ok result =>
      rw [provision_congr h hs (next result (.attempted gate attempt _))]
      exact rest
    | error f =>
      rw [← h.provision_eq hs] at attempt
      exact runs_lift_bind.2 ⟨ds₁, .error f, ds₂, attempt, told, rfl⟩

lemma runs_attend (h : p.SameInUse q) (runs : (attend now g ns (some p)).run.Runs ds r)
    (next : ∀ result,
      Finds now g ns (.request (.getProvider g.spec.provider) (.ok (some p)) :: ds)
        (.provisioned p result) → (rotationOf now g q).next = (rotationOf now g p).next) :
    (attend now g ns (some q)).run.Runs ds r := by
  have removal : cleanupStrategy? (some q) = cleanupStrategy? (some p) := h.ofProvider?_eq
  unfold attend at runs ⊢
  rw [removal]
  split at runs
  case isTrue hd =>
    rw [if_pos hd]
    exact runs
  case isFalse hd =>
    rw [if_neg hd]
    exact runs_serveFrom h runs next

end GrantPass

/-! ### Clusters with the one provider and with the other -/

/-- A cluster with another provider of some name. -/
def Objects.withProvider (o : Objects) (name : String) (q : Provider) : Objects :=
  { o with providers := o.providers.insert name q }

/-- The deed with another provider read. -/
def Deed.exchange (q : Provider) : Deed → Deed
  | .request (.getProvider name) (.ok (some _)) => .request (.getProvider name) (.ok (some q))
  | d => d

section

variable {now : Timestamp} {g : Grant} {ns name : String} {found : Option Provider} {q : Provider}
  {ds : List Deed} {o o' : Objects}

lemma Deed.Follows.exchange_eq {d : Deed} (h : d.Follows g ns found) : d.exchange q = d := by
  cases d with
  | request r out => cases r <;> first | rfl | exact absurd h id
  | publish e => rfl
  | measure m => rfl

lemma map_exchange_eq (h : ∀ d ∈ ds, d.Follows g ns found) : ds.map (.exchange q) = ds :=
  List.map_congr_left (fun d hd => (h d hd).exchange_eq) |>.trans (List.map_id ds)

lemma Request.Follows.answer_withProvider {r : Request} (h : r.Follows g ns found) :
    (o.withProvider name q).answer now r =
      ((o.answer now r).1, (o.answer now r).2.withProvider name q) := by
  cases r <;> first | rfl | exact absurd h id

/-- What follows after the provider was read does not depend on it. -/
lemma Objects.allows_withProvider (h : ∀ d ∈ ds, d.Follows g ns found)
    (ha : o.Allows now ds o') :
    (o.withProvider name q).Allows now ds (o'.withProvider name q) := by
  induction ds generalizing o with
  | nil =>
    obtain rfl := allows_nil.1 ha
    exact allows_nil.2 rfl
  | cons d ds ih =>
    obtain ⟨first, later⟩ := List.forall_mem_cons.1 h
    match d, first, ha with
    | .request r (.ok a), first, ha =>
      have answered : (o.withProvider name q).answer now r =
          ((o.answer now r).1, (o.answer now r).2.withProvider name q) :=
        Request.Follows.answer_withProvider first
      rw [allows_ok] at ha ⊢
      rw [answered]
      exact ⟨ha.1, ih later ha.2⟩
    | .request r (.error e), _, ha => exact allows_error.2 (ih later (allows_error.1 ha))
    | .publish e, _, ha => exact allows_publish.2 (ih later (allows_publish.1 ha))
    | .measure m, _, ha => exact allows_measure.2 (ih later (allows_measure.1 ha))

/-- A status that is written for a provider goes to whichever one stands there. -/
lemma Objects.withProvider_patched (o : Objects) (name : String) (q : Provider)
    (s : ProviderStatus) :
    ((o.withProvider name q).answer now (.patchProviderStatus name s)).2 =
      (o.answer now (.patchProviderStatus name s)).2.withProvider name
        { q with status := some s } := by
  refine ext_content fun x => ?_
  cases x with
  | provider other =>
    by_cases same : name = other <;>
      simp [withProvider, answer, content, Std.ExtTreeMap.getElem?_insert,
        Std.ExtTreeMap.getElem?_modify, same]
  | labels _ | grant _ | secret _ | other _ => rfl

/-- A pass over the provider itself gets the same answers too, and leaves the same status. -/
lemma ProviderPass.allows_withProvider {p p' : Provider} (own : ∀ d ∈ ds, ProviderPass.Own p d)
    (ha : o.Allows now ds o') (found : o.providers[p.name]? = some p')
    (same : q.status = p'.status) :
    ∃ status, o'.providers[p.name]? = some { p' with status := status } ∧
      (o.withProvider p.name q).Allows now ds
        (o'.withProvider p.name { q with status := status }) := by
  -- after each deed the provider and its replacement still have the same status
  induction ds generalizing o p' q with
  | nil =>
    obtain rfl := Objects.allows_nil.1 ha
    exact ⟨q.status, same ▸ found, Objects.allows_nil.2 rfl⟩
  | cons d ds ih =>
    obtain ⟨first, later⟩ := List.forall_mem_cons.1 own
    match d, first, ha with
    | .request r (.ok a), first, ha =>
      rcases first with ⟨key, rfl⟩ | rfl | ⟨s, rfl⟩
      · obtain ⟨status, left, rest⟩ := ih later ha.2 found same
        exact ⟨status, left, ha.1, rest⟩
      · obtain ⟨status, left, rest⟩ := ih later ha.2 found same
        exact ⟨status, left, ha.1, rest⟩
      · have stands : (o.answer now (.patchProviderStatus p.name s)).2.providers[p.name]? =
            some { p' with status := some s } := by simp [Objects.answer, found]
        obtain ⟨status, left, rest⟩ := ih (q := { q with status := some s }) later ha.2 stands rfl
        exact ⟨status, left, ha.1, (o.withProvider_patched p.name q s).symm ▸ rest⟩
    | .request r (.error e), _, ha =>
      obtain ⟨status, left, rest⟩ := ih later (Objects.allows_error.1 ha) found same
      exact ⟨status, left, Objects.allows_error.2 rest⟩
    | .publish e, _, ha =>
      obtain ⟨status, left, rest⟩ := ih later (Objects.allows_publish.1 ha) found same
      exact ⟨status, left, Objects.allows_publish.2 rest⟩
    | .measure m, _, ha =>
      obtain ⟨status, left, rest⟩ := ih later (Objects.allows_measure.1 ha) found same
      exact ⟨status, left, Objects.allows_measure.2 rest⟩

end

namespace Finding

/-- What is found if another provider is read. -/
def exchange (q : Provider) : Finding → Finding
  | .provisioned _ result => .provisioned q result
  | .rejected rej => .rejected rej
  | .failed f => .failed f

/-- The provider is part of the computed status by the date of the next rotation only. -/
lemma status_exchange (f : Finding) (now : Timestamp) (g : Grant) (q : Provider) :
    (f.exchange q).status now g =
      { f.status now g with nextRotation := ((f.exchange q).status now g).nextRotation } := by
  cases f <;> rfl

lemma exchange_ofAttempt {p q : Provider} (outcome : Except ProvisionFailure ProvisionResult) :
    (ofAttempt p outcome).exchange q = ofAttempt q outcome := by
  cases outcome <;> rfl

end Finding

namespace GrantPass

variable {now : Timestamp} {p q : Provider} {g : Grant} {ns : String} {f : Finding}
  {result : ProvisionResult} {rest : List Deed} {r : Except ReconcileFailure Action}

/-- The same is found after the other provider was read. -/
lemma Finds.exchange (h : p.SameInUse q)
    (finds : Finds now g ns (.request (.getProvider g.spec.provider) (.ok (some p)) :: rest) f) :
    Finds now g ns (.request (.getProvider g.spec.provider) (.ok (some q)) :: rest)
      (f.exchange q) := by
  generalize hds : Deed.request (.getProvider g.spec.provider) (.ok (some p)) :: rest = ds at finds
  cases finds with
  | missing _ => cases (List.cons.inj hds).1
  | refused gate _ =>
    cases hds
    exact .refused (by rwa [h.gate_eq]) _
  | attempted gate attempt _ =>
    cases hds
    rw [Finding.exchange_ofAttempt]
    rw [← h.provision_eq (Grant.gate_ok_iff.1 gate).2.2] at attempt
    exact .attempted (by rwa [h.gate_eq]) attempt _

/-- Before an artifact is made, the provider and the labels of the namespace were read. -/
lemma Finds.made_begins {ds : List Deed} (finds : Finds now g ns ds (.provisioned p result)) :
    ∃ labels rest, ds = .request (.getProvider g.spec.provider) (.ok (some p)) ::
      .request (.getNamespaceLabels ns) (.ok labels) :: rest := by
  generalize hf : Finding.provisioned p result = f at finds
  cases finds with
  | missing _ | refused _ _ => cases hf
  | @attempted p' labels _ _ outcome _ _ _ =>
    cases outcome with
    | error e => cases hf
    | ok result' =>
      cases hf
      exact ⟨labels, _, rfl⟩

/-- No artifact is made for a grant that is being deleted. -/
lemma kept_of_made {ds : List Deed} (runs : (reconcileGrant now g).run.Runs ds r)
    (finds : Finds now g ns ds (.provisioned p result)) : g.isDeleting = false := by
  obtain ⟨labels, rest, rfl⟩ := finds.made_begins
  obtain ⟨es, course, same⟩ := course_of_runs runs
  cases course with
  | claiming _ hd _ _ | serving _ hd _ _ => exact hd
  | homeless _ | released _ _ _ => simp [Pass.endDeeds] at same
  | releasing _ _ _ released =>
    -- after the provider something is removed
    have second := congrArg (·[1]?) same
    cases released with
    | providerUnread e => cases (List.cons.inj same).1
    | unserved hs => simp at second
    | @unremoved _ s _ _ _ => cases s <;> simp [Strategy.removal] at second
    | @removed _ s _ _ _ => cases s <;> simp [Strategy.removal] at second

/-- What a pass has found is reported. -/
lemma reported_of_finds {ds : List Deed} (hns : g.metadata.ns = some ns)
    (kept : g.isDeleting = false) (claimed : hasFinalizer g = true)
    (runs : (reconcileGrant now g).run.Runs ds r) (finds : Finds now g ns ds f) :
    Reported now g f ds := by
  rcases pass_finds hns kept claimed runs with ⟨-, -, nothing⟩ | ⟨f', finds', report⟩
  · exact absurd finds (nothing f)
  · rwa [finds.unique finds']

/-- If a pass that makes an artifact can go on in the same way, the same date follows. -/
lemma next_of_runs (h : p.SameInUse q) (hns : g.metadata.ns = some ns)
    (runs : (reconcileGrant now g).run.Runs
      (.request (.getProvider g.spec.provider) (.ok (some p)) :: rest) r)
    (runs' : (reconcileGrant now g).run.Runs
      (.request (.getProvider g.spec.provider) (.ok (some q)) :: rest) r)
    (finds : Finds now g ns (.request (.getProvider g.spec.provider) (.ok (some p)) :: rest)
      (.provisioned p result)) :
    (rotationOf now g q).next = (rotationOf now g p).next := by
  obtain ⟨-, -, claimed⟩ := claimed_of_reading runs
  have kept := kept_of_made runs finds
  -- either run leaves the status that belongs to its finding, and both leave the same
  have told := reported_of_finds hns kept claimed runs finds
  have told' := reported_of_finds hns kept claimed runs' (finds.exchange h)
  have same := told.statusAfter.symm.trans told'.statusAfter
  exact (congrArg GrantStatus.nextRotation (Option.some.inj same)).symm

/-- How an artifact comes to be made once the provider was read. -/
lemma made_of_runs {ds : List Deed} (runs : (serveFrom now g ns p).run.Runs ds r)
    (finds : Finds now g ns
      (.request (.getProvider g.spec.provider) (.ok (some p)) ::
        (ds ++ Pass.endDeeds .grants r)) (.provisioned p result)) :
    ∃ labels s ds₁ ds₂, ds = .request (.getNamespaceLabels ns) (.ok labels) :: (ds₁ ++ ds₂) ∧
      g.gate ns p labels = .ok s ∧ (s.provision now p g).run.Runs ds₁ (.ok result) ∧
      (onProvisioned now g ns p s result).run.Runs ds₂ r := by
  rcases Pass.runs_send_bind.1 runs with ⟨e, rfl, -⟩ | ⟨labels, es, rfl, served⟩
  · obtain ⟨labels, _, same⟩ := finds.made_begins
    cases (List.cons.inj (List.cons.inj same).2).1
  cases gate : g.gate ns p labels with
  | error rej => cases finds.unique (.refused gate _)
  | ok s =>
    simp only [gate] at served
    obtain ⟨ds₁, outcome, ds₂, attempt, told, rfl⟩ := runs_lift_bind.1 served
    have found : Finding.provisioned p result = .ofAttempt p outcome := by
      rw [List.cons_append, List.append_assoc] at finds
      exact finds.unique (.attempted gate attempt _)
    cases outcome with
    | error f => cases found
    | ok result' =>
      cases found
      exact ⟨labels, s, ds₁, ds₂, rfl, gate, attempt, told⟩

lemma runs_of_made {labels : Option StringMap} {s : Strategy} {ds₁ ds₂ : List Deed}
    (gate : g.gate ns p labels = .ok s) (attempt : (s.provision now p g).run.Runs ds₁ (.ok result))
    (told : (onProvisioned now g ns p s result).run.Runs ds₂ r) :
    (serveFrom now g ns p).run.Runs
      (.request (.getNamespaceLabels ns) (.ok labels) :: (ds₁ ++ ds₂)) r := by
  refine Pass.runs_send_bind.2 (.inr ⟨labels, _, rfl, ?_⟩)
  simp only [gate]
  exact runs_lift_bind.2 ⟨ds₁, .ok result, ds₂, attempt, told, rfl⟩

/-- What is told about an artifact that was made does not make it again. -/
lemma told_not_applies {s : Strategy} {ds : List Deed} (hns : g.metadata.ns = some ns)
    (told : (onProvisioned now g ns p s result).run.Runs ds r) :
    (ds ++ Pass.endDeeds .grants r).filter Deed.applies = [] := by
  obtain ⟨look, reads, report⟩ := provisioned_of_runs hns told
  refine List.filter_eq_nil_iff.2 fun d hd => ?_
  rcases List.mem_append.1 hd with hd | hd
  · simp [report.not_applies (fun _ => quiet_provisioned reads) hd]
  · simp [(quiet_endDeeds d hd).not_applies]

/-- A pass that makes an artifact with one provider can make it with the other. -/
lemma exists_made {o o₁ : Objects} (h : p.SameInUse q) (hns : g.metadata.ns = some ns)
    (runs : (reconcileGrant now g).run.Runs
      (.request (.getProvider g.spec.provider) (.ok (some p)) :: rest) r)
    (allowed : o.Allows now (.request (.getProvider g.spec.provider) (.ok (some p)) :: rest) o₁)
    (finds : Finds now g ns (.request (.getProvider g.spec.provider) (.ok (some p)) :: rest)
      (.provisioned p result)) :
    ∃ rest' r' o₂,
      (reconcileGrant now g).run.Runs
        (.request (.getProvider g.spec.provider) (.ok (some q)) :: rest') r' ∧
      (o.withProvider g.spec.provider q).Allows now
        (.request (.getProvider g.spec.provider) (.ok (some q)) :: rest') o₂ ∧
      rest'.filter Deed.applies = rest.filter Deed.applies ∧
      Finds now g ns (.request (.getProvider g.spec.provider) (.ok (some q)) :: rest')
        (.provisioned q result) := by
  obtain ⟨-, -, claimed⟩ := claimed_of_reading runs
  have kept := kept_of_made runs finds
  obtain ⟨es, attended, rfl⟩ := (runs_reading hns claimed).1 runs
  simp only [attend, kept, Bool.false_eq_true, if_false] at attended
  obtain ⟨labels, s, ds₁, ds₂, rfl, gate, attempt, told⟩ := made_of_runs attended finds
  have hs := (Grant.gate_ok_iff.1 gate).2.2
  -- up to the artifact everything is the same, and then it is told in some way
  have gate' : g.gate ns q labels = .ok s := by rwa [h.gate_eq]
  have attempt' : (s.provision now q g).run.Runs ds₁ (.ok result) := by rwa [h.provision_eq hs]
  have follows := (Strategy.attempt_of_runs hns attempt).follows hs
  obtain ⟨-, labelled, allowed⟩ := allowed
  obtain ⟨o₂, allowed, -⟩ := Objects.allows_append.1 allowed
  obtain ⟨o₃, tried, -⟩ := Objects.allows_append.1 allowed
  obtain ⟨es, r', o₄, measured, allowed', -⟩ :=
    (o₃.withProvider g.spec.provider q).exists_undisturbed now
      (Pass.measured .grants (onProvisioned now g ns q s result)).run
  obtain ⟨es, told', rfl⟩ := Pass.runs_measured.1 measured
  have served := runs_of_made gate' attempt' told'
  refine ⟨.request (.getNamespaceLabels ns) (.ok labels) :: (ds₁ ++ es) ++
    Pass.endDeeds .grants r', r', o₄, (runs_reading hns claimed).2 ⟨_, ?_, rfl⟩, ?_, ?_, ?_⟩
  · simpa only [attend, kept, Bool.false_eq_true, if_false] using served
  · refine ⟨by simp [Objects.withProvider, Objects.answer], labelled, ?_⟩
    rw [List.append_eq, List.append_assoc]
    exact Objects.allows_append.2 ⟨_, Objects.allows_withProvider follows tried, allowed'⟩
  · simp only [List.cons_append, List.append_assoc, List.filter_cons, List.filter_append,
      told_not_applies hns told, told_not_applies hns told']
  · rw [List.cons_append, List.append_assoc]
    exact .attempted gate' attempt' _

/-- A pass over a cluster with the one provider reads it first, if at all, and what it does besides
can be done in the cluster with the other. -/
lemma exchanged {ds : List Deed} {o o₁ : Objects}
    (found : o.providers[g.spec.provider]? = some p)
    (runs : (reconcileGrant now g).run.Runs ds r) (allowed : o.Allows now ds o₁) :
    (o.withProvider g.spec.provider q).Allows now (ds.map (.exchange q))
        (o₁.withProvider g.spec.provider q) ∧
      ((ds.map (.exchange q) = ds ∧
          ∀ p' result, ¬ Finds now g g.key.ns ds (.provisioned p' result)) ∨
        ∃ rest, ds = .request (.getProvider g.spec.provider) (.ok (some p)) :: rest ∧
          ds.map (.exchange q) =
            .request (.getProvider g.spec.provider) (.ok (some q)) :: rest) := by
  rcases follows_of_pass runs with follows | ⟨out, rest, rfl, follows⟩
  · rw [map_exchange_eq (follows none)]
    refine ⟨Objects.allows_withProvider (follows none) allowed, .inl ⟨rfl, ?_⟩⟩
    intro p' result finds
    obtain ⟨labels, rest, rfl⟩ := finds.made_begins
    exact follows none _ (List.mem_cons_self ..)
  cases out with
  | error e =>
    have later := follows none fun _ failed => by cases failed
    have unchanged : rest.map (.exchange q) = rest := map_exchange_eq later
    refine ⟨?_, .inl ⟨congrArg (_ :: ·) unchanged, fun p' result finds => ?_⟩⟩
    · rw [List.map_cons, unchanged]
      exact Objects.allows_error.2
        (Objects.allows_withProvider later (Objects.allows_error.1 allowed))
    · obtain ⟨labels, _, same⟩ := finds.made_begins
      cases (List.cons.inj same).1
  | ok x =>
    have read : o.providers[g.spec.provider]? = x := allowed.1
    obtain rfl := found.symm.trans read
    have later := follows (some p) fun _ ok => by
      cases ok
      rfl
    have unchanged : rest.map (.exchange q) = rest := map_exchange_eq later
    have replaced : (Deed.request (.getProvider g.spec.provider) (.ok (some p)) :: rest).map
        (.exchange q) = .request (.getProvider g.spec.provider) (.ok (some q)) :: rest :=
      congrArg (_ :: ·) unchanged
    refine ⟨?_, .inr ⟨rest, rfl, replaced⟩⟩
    rw [replaced]
    exact ⟨by simp [Objects.withProvider, Objects.answer],
      Objects.allows_withProvider later allowed.2⟩

/-- A pass that has read the one provider can go on in the same way after the other, unless it makes
an artifact and a different date follows. -/
lemma runs_exchanged_iff (h : p.SameInUse q) (hns : g.metadata.ns = some ns)
    (runs : (reconcileGrant now g).run.Runs
      (.request (.getProvider g.spec.provider) (.ok (some p)) :: rest) r) :
    (reconcileGrant now g).run.Runs
        (.request (.getProvider g.spec.provider) (.ok (some q)) :: rest) r ↔
      ∀ result, Finds now g ns (.request (.getProvider g.spec.provider) (.ok (some p)) :: rest)
        (.provisioned p result) → (rotationOf now g q).next = (rotationOf now g p).next := by
  constructor
  · exact fun runs' result made => next_of_runs h hns runs runs' made
  · intro next
    obtain ⟨-, -, claimed⟩ := claimed_of_reading runs
    obtain ⟨es, attended, rfl⟩ := (runs_reading hns claimed).1 runs
    refine (runs_reading hns claimed).2 ⟨es, runs_attend h attended fun result made => ?_, rfl⟩
    exact next result (made.append _)

/-- A pass over a cluster with the one provider can go in the same way over the cluster with the
other, unless it makes an artifact and a different date follows. -/
lemma exchanged_iff {ds : List Deed} {o o₁ : Objects} (h : p.SameInUse q)
    (found : o.providers[g.spec.provider]? = some p)
    (runs : (reconcileGrant now g).run.Runs ds r) (allowed : o.Allows now ds o₁) :
    (o.withProvider g.spec.provider q).Allows now (ds.map (.exchange q))
        (o₁.withProvider g.spec.provider q) ∧
      ((reconcileGrant now g).run.Runs (ds.map (.exchange q)) r ↔
        ∀ result, Finds now g g.key.ns ds (.provisioned p result) →
          (rotationOf now g q).next = (rotationOf now g p).next) := by
  obtain ⟨possible, ⟨unchanged, nothing⟩ | ⟨rest, rfl, replaced⟩⟩ := exchanged found runs allowed
  · rw [unchanged] at possible ⊢
    exact ⟨possible, iff_of_true runs fun result made => absurd made (nothing p result)⟩
  · obtain ⟨ns, hns, -⟩ := claimed_of_reading runs
    have home : g.key.ns = ns := congrArg ObjectKey.ns (Grant.key_eq hns)
    rw [replaced] at possible ⊢
    rw [home]
    exact ⟨possible, runs_exchanged_iff h hns runs⟩

/-- Over the cluster with the other provider, some pass finds the same and applies the same
objects. -/
lemma exists_counterpart {ds : List Deed} {o o₁ : Objects} (h : p.SameInUse q)
    (found : o.providers[g.spec.provider]? = some p)
    (runs : (reconcileGrant now g).run.Runs ds r) (allowed : o.Allows now ds o₁) :
    ∃ es s o₂, (reconcileGrant now g).run.Runs es s ∧
      (o.withProvider g.spec.provider q).Allows now es o₂ ∧
      es.filter Deed.applies = ds.filter Deed.applies ∧
      ∀ f, Finds now g g.key.ns ds f → Finds now g g.key.ns es (f.exchange q) := by
  obtain ⟨possible, ⟨unchanged, nothing⟩ | ⟨rest, rfl, replaced⟩⟩ := exchanged found runs allowed
  · -- the provider was not read
    rw [unchanged] at possible
    refine ⟨ds, r, _, runs, possible, rfl, fun f finds => ?_⟩
    cases f with
    | rejected rej => exact finds
    | failed e => exact finds
    | provisioned p' result => exact absurd finds (nothing p' result)
  · rw [replaced] at possible
    obtain ⟨ns, hns, -⟩ := claimed_of_reading runs
    have home : g.key.ns = ns := congrArg ObjectKey.ns (Grant.key_eq hns)
    rw [home]
    by_cases made : ∃ result, Finds now g ns
        (.request (.getProvider g.spec.provider) (.ok (some p)) :: rest) (.provisioned p result)
    · obtain ⟨result, made⟩ := made
      obtain ⟨rest', r', o₂, runs', allowed', applied, made'⟩ := exists_made h hns runs allowed made
      refine ⟨_, r', o₂, runs', allowed', applied, fun f finds => ?_⟩
      obtain rfl := made.unique finds
      exact made'
    · have runs' := (runs_exchanged_iff h hns runs).2 fun result finds =>
        absurd ⟨result, finds⟩ made
      exact ⟨_, r, _, runs', possible, rfl, fun f finds => finds.exchange h⟩

end GrantPass

/-- Only the block in use counts, but for the interval between rotations.  Let two providers differ
in blocks that are not in use, and let the one stand in a cluster.  Each pass over the one can go in
the same way over the other in its place, and leaves the same status.  A pass over a grant that
refers to the one can go in the same way, with the same deeds, if the other stands in its place,
unless it makes an artifact and a different date follows for the next rotation.  In any case it can
find the same and apply the same objects, and the status that it computes from this is the same but
for that date. -/
theorem block_in_use_counts {p q : Provider} (same : p.SameInUse q) :
    (∀ (now : Timestamp) (ds : List Deed) (r : Except ReconcileFailure Action) (o o₁ : Objects),
      o.providers[p.name]? = some p → (reconcileProvider now p).run.Runs ds r →
      o.Allows now ds o₁ →
      (reconcileProvider now q).run.Runs ds r ∧
      ∃ status, o₁.providers[p.name]? = some { p with status := status } ∧
        (o.withProvider p.name q).Allows now ds
          (o₁.withProvider p.name { q with status := status })) ∧
    ∀ (now : Timestamp) (g : Grant) (ds : List Deed) (r : Except ReconcileFailure Action)
      (o o₁ : Objects), o.providers[g.spec.provider]? = some p →
      (reconcileGrant now g).run.Runs ds r → o.Allows now ds o₁ →
      (o.withProvider g.spec.provider q).Allows now (ds.map (.exchange q))
          (o₁.withProvider g.spec.provider q) ∧
      ((reconcileGrant now g).run.Runs (ds.map (.exchange q)) r ↔
        ∀ result, GrantPass.Finds now g g.key.ns ds (.provisioned p result) →
          (GrantPass.rotationOf now g q).next = (GrantPass.rotationOf now g p).next) ∧
      ∃ es s o₂, (reconcileGrant now g).run.Runs es s ∧
        (o.withProvider g.spec.provider q).Allows now es o₂ ∧
        es.filter Deed.applies = ds.filter Deed.applies ∧
        ∀ f, GrantPass.Finds now g g.key.ns ds f →
          GrantPass.Finds now g g.key.ns es (f.exchange q) ∧
          (f.exchange q).status now g =
            { f.status now g with nextRotation := ((f.exchange q).status now g).nextRotation } := by
  constructor
  · intro now ds r o o₁ found runs allowed
    have own := ProviderPass.only_reconcileProvider ds r runs
    exact ⟨same.reconcileProvider_eq ▸ runs,
      ProviderPass.allows_withProvider own allowed found same.status_eq⟩
  · intro now g ds r o o₁ found runs allowed
    obtain ⟨possible, same_way⟩ := GrantPass.exchanged_iff same found runs allowed
    obtain ⟨es, s, o₂, runs', allowed', applied, finds⟩ :=
      GrantPass.exists_counterpart same found runs allowed
    exact ⟨possible, same_way, es, s, o₂, runs', allowed', applied,
      fun f found => ⟨finds f found, f.status_exchange now g q⟩⟩

namespace Sample

/-- The provider of the small cluster, authenticating in another way. -/
def authenticated (a : Auth) : Provider := { provider with spec.auth := a }

/-- The provider has moved to an external store. -/
def moved : Auth where
  type := .externalSecret
  externalSecret := some {
    store := ⟨"vault", .clusterSecretStore⟩
    remoteRef := { key := "llm/openai" } }

/-- It still has the block from before, with hourly rotations. -/
def movedWithRest : Auth :=
  { moved with
    apiKey := some {
      secretRef := ⟨"master", "platform", "key"⟩
      rotation := some { enabled := true, interval := some "1h" } } }

lemma sameInUse_moved : (authenticated moved).SameInUse (authenticated movedWithRest) :=
  .externalSecret rfl _ none

/-- If the provider has an external store, an undisturbed pass over the grant goes well and keeps
the schedule. -/
lemma pass_authenticated {a : Auth} {action : Action} {next : Option Timestamp}
    (type : a.type = .externalSecret) (block : a.externalSecret.isSome)
    (planned : (GrantPass.rotationOf .epoch grant (authenticated a)).next = next)
    (asked : Rotation.wake .epoch (rotationInterval? grant.spec (authenticated a).spec) next =
      action) :
    ∃ ds o' result s, (reconcileGrant .epoch grant).run.Runs ds (.ok action) ∧
      (objects.withProvider "openai" (authenticated a)).Allows .epoch ds o' ∧ Undisturbed ds ∧
      GrantPass.Finds .epoch grant "team" ds (.provisioned (authenticated a) result) ∧
      statusAfter none ds = some s ∧ s.nextRotation = next := by
  subst planned asked
  have cleared : (objects.withProvider "openai" (authenticated a)).Cleared grant "team"
      (authenticated a) := by
    refine ⟨rfl, cleared.claimed, ?_, ?_, .inl rfl, .inr ⟨type, block⟩⟩
    · simp [Objects.withProvider, grant]
    · exact ⟨∅, by simp [Objects.withProvider, objects], by simp [authenticated, provider]⟩
  obtain ⟨ds, a', o', result, runs, allowed, undisturbed, made⟩ :=
    GrantPass.made_of_cleared at_home cleared (fun k other => by cases type.symm.trans other) .epoch
  obtain ⟨f, finds, rfl, handed, -⟩ := GrantPass.outcome_of_pass at_home rfl (by decide) runs
  obtain rfl := finds.unique made
  exact ⟨ds, o', result, _, runs, allowed, undisturbed, made, handed, rfl⟩

end Sample

/-- In the small cluster a block that is not in use makes no difference to what is found and to the
objects that are applied. -/
theorem sample_block_in_use_counts :
    (Sample.authenticated Sample.moved).SameInUse (Sample.authenticated Sample.movedWithRest) ∧
      ∃ ds r es s o o₁, (reconcileGrant .epoch Sample.grant).run.Runs ds r ∧
        (Sample.objects.withProvider "openai" (Sample.authenticated Sample.moved)).Allows .epoch
          ds o ∧
        (reconcileGrant .epoch Sample.grant).run.Runs es s ∧
        ((Sample.objects.withProvider "openai" (Sample.authenticated Sample.moved)).withProvider
          "openai" (Sample.authenticated Sample.movedWithRest)).Allows .epoch es o₁ ∧
        es.filter Deed.applies = ds.filter Deed.applies ∧
        ∃ result, GrantPass.Finds .epoch Sample.grant "team" es
          (.provisioned (Sample.authenticated Sample.movedWithRest) result) := by
  obtain ⟨ds, o, result, -, runs, allowed, -, made, -⟩ :=
    Sample.pass_authenticated (a := Sample.moved) rfl rfl rfl rfl
  obtain ⟨-, grants⟩ := block_in_use_counts Sample.sameInUse_moved
  obtain ⟨-, -, es, s, o₁, runs', allowed', applied, finds⟩ :=
    grants .epoch Sample.grant ds _ _ o (by simp [Objects.withProvider, Sample.grant]) runs allowed
  exact ⟨Sample.sameInUse_moved, ds, _, es, s, o, o₁, runs, allowed, runs', allowed', applied,
    result, (finds _ made).1⟩

/-- A block that is not in use governs the rotation: of two providers that use an external store,
the one with a block for a key from earlier times makes the pass come back in an hour, and puts the
next rotation there. -/
theorem idle_block_governs_rotation :
    (Sample.authenticated Sample.moved).SameInUse (Sample.authenticated Sample.movedWithRest) ∧
      (∃ ds o s, (reconcileGrant .epoch Sample.grant).run.Runs ds (.ok .awaitChange) ∧
        (Sample.objects.withProvider "openai" (Sample.authenticated Sample.moved)).Allows .epoch
          ds o ∧
        Undisturbed ds ∧ statusAfter none ds = some s ∧ s.nextRotation = none) ∧
      ∃ ds o s, (reconcileGrant .epoch Sample.grant).run.Runs ds
          (.ok (.requeue ⟨3600000000000⟩)) ∧
        (Sample.objects.withProvider "openai" (Sample.authenticated Sample.movedWithRest)).Allows
          .epoch ds o ∧
        Undisturbed ds ∧ statusAfter none ds = some s ∧ s.nextRotation = some Sample.hour := by
  refine ⟨Sample.sameInUse_moved, ?_, ?_⟩
  · obtain ⟨ds, o, result, s, runs, allowed, undisturbed, -, handed, unplanned⟩ :=
      Sample.pass_authenticated (a := Sample.moved) rfl rfl rfl rfl
    exact ⟨ds, o, s, runs, allowed, undisturbed, handed, unplanned⟩
  · have planned : (GrantPass.rotationOf .epoch Sample.grant
        (Sample.authenticated Sample.movedWithRest)).next = some Sample.hour := by decide
    have asked : Rotation.wake .epoch (rotationInterval? Sample.grant.spec
        (Sample.authenticated Sample.movedWithRest).spec) (some Sample.hour) =
          .requeue ⟨3600000000000⟩ := by decide
    obtain ⟨ds, o, result, s, runs, allowed, undisturbed, -, handed, hourly⟩ :=
      Sample.pass_authenticated rfl rfl planned asked
    exact ⟨ds, o, s, runs, allowed, undisturbed, handed, hourly⟩

end CredentialOperator
