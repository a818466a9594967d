import CredentialOperator.Proofs.Reconcile.Custody
import CredentialOperator.Proofs.Reconcile.Discretion

/-!
# The operator in clusters that differ in their keys

A session is what happens to a cluster while the operator is called for passes over grants and
providers and for requests to the admission server, and while others change the cluster between
the calls.  Sessions over alike clusters in which the same requests fail go the same way: what is
returned, written, published and measured is the same, but for the API keys in the artifacts
(`credentials_kept_apart`).  What a pass applies there is the master key that its own cluster held
before the pass (`GrantPass.copies_of_runs`).
-/

namespace CredentialOperator

/-! ## The bytes that are copied -/

/-- The master key for a grant: what the Secret that its provider refers to holds under the key
that it declares. -/
def Objects.masterKey? (o : Objects) (g : Grant) : Option (List UInt8) := do
  let p ← o.providers[g.spec.provider]?
  let k ← p.spec.auth.apiKey
  let master ← o.secrets[k.secretRef.secretKey]?
  master.get? k.secretRef.key

lemma DirectCopy.get?_artifact (p : Provider) (g : Grant) (ns : String) (v : List UInt8) :
    (artifact p g ns v).get? apiKeyKey = some v := by
  simp [get?_artifact_eq, providerKey, baseUrlKey, apiKeyKey]

section

variable {now : Timestamp} {p : Provider} {g : Grant} {ns : String} {ds : List Deed}
  {o o' : Objects} {key : ObjectKey} {t : Secret} {out : Except ApiFailure Unit}

/-- The API key in a Secret is the master key for a grant. -/
def Secret.Copies (t : Secret) (o : Objects) (g : Grant) : Prop :=
  ∃ value, o.masterKey? g = some value ∧ t.get? apiKeyKey = some value

/-- An attempt copies the key that it has read from the cluster. -/
lemma Strategy.Attempt.copies {s : Strategy} {r : Except ProvisionFailure ProvisionResult}
    (h : s.Attempt now p g ns ds r) (found : o.providers[g.spec.provider]? = some p)
    (ha : o.Allows now ds o') (applied : Deed.request (.applySecret key t) out ∈ ds) :
    t.Copies o g := by
  have copied : ∀ {k : ApiKeyAuth} {master : Secret} {value : List UInt8},
      p.spec.auth.apiKey = some k → o.secrets[k.secretRef.secretKey]? = some master →
      master.get? k.secretRef.key = some value → t = DirectCopy.artifact p g ns value →
      t.Copies o g := by
    rintro k master value declared read held rfl
    exact ⟨value, by simp [Objects.masterKey?, found, declared, read, held],
      DirectCopy.get?_artifact p g ns value⟩
  cases s with
  | delegatedSync =>
    have h : DelegatedSync.Attempt now p g ns ds r := h
    cases h <;> simp at applied
  | directCopy =>
    have h : DirectCopy.Attempt now p g ns ds r := h
    cases h with
    | unwritten declared held old context e => exact copied declared ha.1 held (by simp_all)
    | written declared held old => exact copied declared ha.1 held (by simp_all)
    | _ => simp at applied

lemma GrantPass.Serving.copies {r : Except ReconcileFailure Action}
    (h : GrantPass.Serving now g ns ds r) (ha : o.Allows now ds o')
    (applied : Deed.request (.applySecret key t) out ∈ ds) : t.Copies o g := by
  rcases h.attempted applied with quiet | ⟨t, o, same⟩ | ⟨_, _, _, _, _, _, attempt, mem, rfl⟩
  · cases quiet
  · cases same
  · obtain ⟨o₁, ha₁, -⟩ := Objects.allows_append.1 ha.2.2
    exact attempt.copies ha.1 ha₁ mem

/-- What a pass over a grant applies holds the master key that the cluster held before. -/
theorem GrantPass.copies_of_runs {r : Except ReconcileFailure Action}
    (runs : (reconcileGrant now g).run.Runs ds r) (ha : o.Allows now ds o')
    (applied : Deed.request (.applySecret key t) out ∈ ds) : t.Copies o g := by
  obtain ⟨es, course, allowed, rfl⟩ := GrantPass.course_of_allowed runs ha
  have in_course : Deed.request (.applySecret key t) out ∈ es :=
    GrantPass.mem_course applied (by simp [Deed.Quiet, Request.reads])
  cases course with
  | homeless _ => exact absurd in_course List.not_mem_nil
  | released _ _ _ => exact absurd in_course List.not_mem_nil
  | claiming _ _ _ _ => simp at in_course
  | releasing _ _ _ rest => exact absurd (.inl rfl) (rest.not_hands in_course)
  | serving _ _ _ rest => exact rest.copies allowed in_course

end

/-! ## Sessions -/

/-- What the operator is called for. -/
inductive Call where
  /-- A pass over a grant. -/
  | grant (g : Grant)
  /-- A pass over a provider. -/
  | provider (p : Provider)
  /-- A request to the admission server. -/
  | admission (method target : String) (body : ByteArray)

/-- How a call ends. -/
inductive Ending where
  /-- With what a pass returns. -/
  | pass (r : Except ReconcileFailure Action)
  /-- With the answer of the admission server. -/
  | answer (a : AdmissionAnswer)

/-- What is done when the operator is called. -/
def Call.program (now : Timestamp) : Call → Program Ending
  | .grant g => do return .pass (← (reconcileGrant now g).run)
  | .provider p => do return .pass (← (reconcileProvider now p).run)
  | .admission method target body => do return .answer (← serveAdmission method target body)

/-- A call that was answered: what the cluster held before, the deeds and the end. -/
structure Entry where
  call : Call
  before : Objects
  deeds : List Deed
  ending : Ending

namespace Entry

/-- Every Secret that was applied holds the master key for the grant that was looked at. -/
def Copies (e : Entry) : Prop :=
  ∀ key t out, Deed.request (.applySecret key t) out ∈ e.deeds →
    ∃ g, e.call = .grant g ∧ t.Copies e.before g

/-- Two calls were answered alike: the clusters were alike, the deeds are the same but for the
bytes of Secrets that are read and of the API keys that are applied, and the end is the same. -/
structure Alike (e e' : Entry) : Prop where
  call : e.call = e'.call
  before : e.before.Alike e'.before
  deeds : List.Forall₂ Deed.Alike e.deeds e'.deeds
  ending : e.ending = e'.ending

/-- In the course of two calls the same requests fail for the same reasons. -/
def FailsAlike (e e' : Entry) : Prop := FailAlike e.deeds e'.deeds

end Entry

/-- A change that others make to clusters.  It turns alike ones into alike ones. -/
structure Objects.Edit where
  change : Objects → Objects
  alike {o o' : Objects} (h : o.Alike o') : (change o).Alike (change o')

/-- The change of a grant. -/
def Objects.Edit.ofGrant (key : ObjectKey) (change : Grant → Grant) : Objects.Edit where
  change o := o.modifyGrant key change
  alike h := h.modifyGrant key change

/-- What happens to a cluster. -/
inductive Occasion where
  /-- The operator is called. -/
  | call (now : Timestamp) (c : Call)
  /-- Others change the cluster. -/
  | edit (e : Objects.Edit)

/-- A cluster goes through some occasions, whichever requests fail: the calls that were answered,
and what it holds in the end. -/
inductive Session : Objects → List Occasion → List Entry → Objects → Prop where
  | done (o : Objects) : Session o [] [] o
  | call {o o₁ last : Objects} {now : Timestamp} {c : Call} {ds : List Deed} {e : Ending}
      {rest : List Occasion} {log : List Entry} (runs : (c.program now).Runs ds e)
      (allowed : o.Allows now ds o₁) (later : Session o₁ rest log last) :
      Session o (.call now c :: rest) (⟨c, o, ds, e⟩ :: log) last
  | edit {o last : Objects} {e : Objects.Edit} {rest : List Occasion} {log : List Entry}
      (later : Session (e.change o) rest log last) : Session o (.edit e :: rest) log last

lemma Call.discreet (now : Timestamp) (c : Call) :
    (c.program now).Discreet (Secret.AlikeBut apiKeyKey) := by
  cases c with
  | grant g => exact GrantPass.discreet_reconcileGrant.bind fun r => .done rfl
  | provider p => exact ProviderPass.discreet_reconcileProvider.bind fun r => .done rfl
  | admission method target body =>
    exact (discreet_serveAdmission method target body).bind fun a => .done rfl

/-- Only a pass over a grant applies Secrets. -/
lemma Call.copies {now : Timestamp} {c : Call} {o o' : Objects} {ds : List Deed} {e : Ending}
    (runs : (c.program now).Runs ds e) (allowed : o.Allows now ds o') :
    (⟨c, o, ds, e⟩ : Entry).Copies := by
  intro key secret out applied
  cases c with
  | grant g =>
    obtain ⟨es, r, _, passed, ended, rfl⟩ := Program.runs_bind.1 runs
    obtain ⟨rfl, -⟩ := Program.runs_done.1 ended
    rw [List.append_nil] at allowed applied
    exact ⟨g, rfl, GrantPass.copies_of_runs passed allowed applied⟩
  | provider p =>
    -- no two Secrets are related, so a program like itself applies none
    have silent : (Call.program now (.provider p)).Discreet fun _ _ => False :=
      ProviderPass.discreet_reconcileProvider.bind fun r => .done rfl
    exact absurd applied (silent.not_applied runs)
  | admission method target body =>
    have silent : (Call.program now (.admission method target body)).Discreet fun _ _ => False :=
      (discreet_serveAdmission method target body).bind fun a => .done rfl
    exact absurd applied (silent.not_applied runs)

namespace Session

variable {o o' last last' : Objects} {occasions : List Occasion} {log log' : List Entry}

lemma copies (h : Session o occasions log last) : ∀ e ∈ log, e.Copies := by
  induction h with
  | done o => simp
  | call runs allowed _ ih =>
    rintro e (_ | ⟨_, mem⟩)
    · exact Call.copies runs allowed
    · exact ih e mem
  | edit _ ih => exact ih

/-- Sessions over alike clusters in which the same requests fail go the same way. -/
lemma lockstep (h : Session o occasions log last) (same : o.Alike o')
    (h' : Session o' occasions log' last')
    (fail : List.Forall₂ Entry.FailsAlike log log') :
    List.Forall₂ Entry.Alike log log' ∧ last.Alike last' := by
  induction h generalizing o' log' with
  | done o =>
    cases h'
    exact ⟨.nil, same⟩
  | call runs allowed _ ih =>
    cases h' with | call runs' allowed' later' =>
    obtain ⟨first, fail⟩ := List.forall₂_cons.1 fail
    obtain ⟨deeds, ended, after⟩ :=
      (Call.discreet _ _).lockstep same runs allowed runs' allowed' first
    obtain ⟨entries, ends⟩ := ih after later' fail
    exact ⟨.cons ⟨rfl, same, deeds, ended⟩ entries, ends⟩
  | @edit _ _ e _ _ _ ih =>
    cases h' with | edit later' =>
    exact ih (e.alike same) later' fail

/-- A session over a cluster has one over an alike cluster beside it in which the same requests
fail. -/
lemma partner (h : Session o occasions log last) (same : o.Alike o') :
    ∃ log' last', Session o' occasions log' last' ∧ List.Forall₂ Entry.FailsAlike log log' := by
  induction h generalizing o' with
  | done o => exact ⟨[], o', .done o', .nil⟩
  | @call _ _ _ now c _ _ _ _ runs allowed _ ih =>
    have discreet := Call.discreet now c
    obtain ⟨es, e, o₁', runs', allowed', fail⟩ := discreet.partner same runs allowed
    obtain ⟨-, -, after⟩ := discreet.lockstep same runs allowed runs' allowed' fail
    obtain ⟨log', last', later', fails⟩ := ih after
    exact ⟨_, last', .call runs' allowed' later', .cons fail fails⟩
  | @edit _ _ e _ _ _ ih =>
    obtain ⟨log', last', later', fails⟩ := ih (e.alike same)
    exact ⟨log', last', .edit later', fails⟩

/-- The operator is never stuck: every list of occasions has a session. -/
lemma exists_session (o : Objects) (occasions : List Occasion) :
    ∃ log last, Session o occasions log last := by
  induction occasions generalizing o with
  | nil => exact ⟨[], o, .done o⟩
  | cons occasion rest ih =>
    cases occasion with
    | call now c =>
      obtain ⟨ds, e, o₁, runs, allowed, -⟩ := o.exists_undisturbed now (c.program now)
      obtain ⟨log, last, later⟩ := ih o₁
      exact ⟨_, last, .call runs allowed later⟩
    | edit e =>
      obtain ⟨log, last, later⟩ := ih (e.change o)
      exact ⟨log, last, .edit later⟩

end Session

/-- Over alike clusters the operator does the same: for whatever passes and requests for admission
it is called, and whichever requests fail, it ends each call in the same way and sends, publishes
and measures the same, but for the API keys in the Secrets that it applies; and these are the
master keys of the one cluster and of the other. -/
theorem credentials_kept_apart {o o' last : Objects} {occasions : List Occasion} {log : List Entry}
    (same : o.Alike o') (session : Session o occasions log last) :
    (∀ e ∈ log, e.Copies) ∧
      (∃ log' last', Session o' occasions log' last' ∧ List.Forall₂ Entry.FailsAlike log log') ∧
      ∀ log' last', Session o' occasions log' last' → List.Forall₂ Entry.FailsAlike log log' →
        List.Forall₂ Entry.Alike log log' ∧ last.Alike last' ∧ ∀ e ∈ log', e.Copies := by
  refine ⟨session.copies, session.partner same, fun log' last' session' fail => ?_⟩
  obtain ⟨entries, ends⟩ := session.lockstep same session' fail
  exact ⟨entries, ends, session'.copies⟩

namespace Sample

/-- The master Secret with another key in it. -/
def rekeyedMaster : Secret :=
  { master with data := some ((∅ : SecretData).insert "key" [110, 101, 119]) }

/-- The small cluster with this Secret. -/
def rekeyed : Objects :=
  { objects with secrets := (∅ : KeyMap Secret).insert ⟨"platform", "master"⟩ rekeyedMaster }

lemma alike_rekeyed : objects.Alike rekeyed where
  providers := rfl
  namespaces := rfl
  grants := rfl
  others := rfl
  secrets place := by
    have masters : master.Alike rekeyedMaster :=
      ⟨rfl, rfl, rfl, rfl, rfl, fun _ => by simp [Secret.holds, master, rekeyedMaster]⟩
    simp only [objects, rekeyed, Std.ExtTreeMap.getElem?_insert]
    split
    · exact .some masters
    · exact .refl _

lemma masterKey?_known : objects.masterKey? known = some [115, 107] ∧
    rekeyed.masterKey? known = some [110, 101, 119] := by
  constructor <;>
    simp [Objects.masterKey?, objects, rekeyed, known, grant, provider, master, rekeyedMaster,
      SecretKeyReference.secretKey, Secret.get?]

/-- Asks for the deletion of a grant. -/
def withdrawn (g : Grant) : Grant := { g with metadata.deletionTimestamp := some .epoch }

/-- The grant is served and its provider checked; then the grant is deleted and released. -/
def calls : List Occasion := [
  .call .epoch (.grant known),
  .call .epoch (.provider provider),
  .edit (.ofGrant known.key withdrawn),
  .call .epoch (.grant (withdrawn known)),
  .call .epoch (.admission "GET" "/healthz" .empty)]

end Sample

/-- In the small cluster and in one with another master key, the same is done from the first pass
over the grant to its release, but each key is copied in its own cluster. -/
theorem sample_credentials_kept_apart :
    Sample.objects.Alike Sample.rekeyed ∧
      ∃ log last log' last', Session Sample.objects Sample.calls log last ∧
        Session Sample.rekeyed Sample.calls log' last' ∧ List.Forall₂ Entry.Alike log log' ∧
        ∃ e ∈ log, ∃ e' ∈ log', ∃ key s s' out,
          .request (.applySecret key s) out ∈ e.deeds ∧
          .request (.applySecret key s') out ∈ e'.deeds ∧
          s.get? apiKeyKey = some [115, 107] ∧ s'.get? apiKeyKey = some [110, 101, 119] := by
  obtain ⟨ds, r, o, runs, allowed, made⟩ := Sample.known_served
  obtain ⟨later, last, rest⟩ := Session.exists_session o Sample.calls.tail
  let entry : Entry := ⟨.grant Sample.known, Sample.objects, ds, .pass r⟩
  have session : Session Sample.objects Sample.calls (entry :: later) last := by
    refine .call (Program.runs_bind.2 ⟨ds, r, [], runs, .done _, ?_⟩) allowed rest
    rw [List.append_nil]
  obtain ⟨copies, ⟨log', last', session', fail⟩, all⟩ :=
    credentials_kept_apart Sample.alike_rekeyed session
  obtain ⟨entries, -, copies'⟩ := all log' last' session' fail
  refine ⟨Sample.alike_rekeyed, _, last, log', last', session, session', entries, ?_⟩
  -- the deed that made the artifact has one beside it, and each copies the key of its cluster
  cases session' with | @call _ _ _ _ _ ds' r' _ log' runs' allowed' rest' =>
  cases entries with | cons alike _ =>
  obtain ⟨t, made', -⟩ := Deed.applied_beside alike.deeds made
  obtain ⟨key, key'⟩ := Sample.masterKey?_known
  refine ⟨entry, List.mem_cons_self, _, List.mem_cons_self, _, _, t, _, made, made', ?_, ?_⟩
  · obtain ⟨g, same, value, held, copied⟩ := copies entry List.mem_cons_self _ _ _ made
    cases same
    rw [copied, ← held]
    exact key
  · obtain ⟨g, same, value, held, copied⟩ := copies' _ List.mem_cons_self _ _ _ made'
    cases same
    rw [copied, ← held]
    exact key'

end CredentialOperator
