import CredentialOperator.Proofs.Cluster.Alike
import CredentialOperator.Proofs.Reconcile.Persistence
import CredentialOperator.Proofs.Reconcile.ProviderEvents

/-!
# The status that a provider is left with

A status is up to date (`ProviderStatus.UpToDate`) if its condition `Ready` says what came of the
check, its count is that of the grants, and its date of the last check is a few minutes old at most.
A pass writes exactly if the stored status is not up to date, and leaves one that is.  As the date
stays good for a while, and conditions that say the same are no reason to write, a pass that comes
soon after one that has written, and finds the same, writes nothing
(`provider_status_up_to_date`).
-/

namespace CredentialOperator

/-! ## Statuses that are up to date -/

/-- A condition says what came of the check of a provider as it is declared now. -/
structure Condition.Tells (c : Condition) (p : Provider) (check : CredentialCheck) : Prop where
  status : c.status = .ofBool check.healthy
  reason : c.reason = check.reason.text
  message : c.message = check.message
  generation : c.observedGeneration = p.metadata.generation

/-- How many grants refer to a provider, in all namespaces. -/
def Objects.referring (o : Objects) (name : String) : Nat :=
  o.grants.values.countP (·.spec.provider = name)

/-- A number is the count of a provider after some deeds: that of the grants that refer to it, as
far as a status can show it, or that of the status before if the grants could not be listed. -/
def Provider.Counts (o : Objects) (p : Provider) (ds : List Deed) (n : Int) : Prop :=
  (∃ gs, .request (.listGrantsOf p.name) (.ok gs) ∈ ds ∧
    n = Nat.min (o.referring p.name) ProviderPass.largestCount) ∨
  ∃ e, .request (.listGrantsOf p.name) (.error e) ∈ ds ∧ n = (p.status.getD {}).grantCount

namespace ProviderStatus

/-- The date of the last check is there, not in the future, and less than four minutes old. -/
def CheckedLately (now : Timestamp) (s : ProviderStatus) : Prop :=
  ∃ last, s.lastCredentialCheck = some last ∧ 0 ≤ now.since last ∧
    now.since last < 240 * 1000000000

/-- A status that a pass need not write. -/
structure UpToDate (now : Timestamp) (o : Objects) (p : Provider) (check : CredentialCheck)
    (ds : List Deed) (s : ProviderStatus) : Prop where
  /-- The condition `Ready` says what came of the check. -/
  ready : ∃ c, Condition.find? s.conditions ProviderPass.readyType = some c ∧ c.Tells p check
  /-- The count is right. -/
  count : p.Counts o ds s.grantCount
  /-- The check is recorded. -/
  checked : s.CheckedLately now

end ProviderStatus

namespace Condition

lemma find?_type {cs : List Condition} {type : String} {c : Condition}
    (h : find? cs type = some c) : c.type = type := by
  simpa using List.find?_some h

end Condition

/-! ## Providers in store -/

/-- A stored provider becomes another by some deeds: each request that writes its status is carried
out, as the message of the request says. -/
inductive Provider.Becomes : Json → List Deed → Json → Prop where
  | done (stored : Json) : Becomes stored [] stored
  /-- A status is written. -/
  | written {stored stored' : Json} {name : String} {s : ProviderStatus} {m : HttpMessage}
      {ds : List Deed} (sent : (Request.patchProviderStatus name s).converse.run.Sends m)
      (rest : Becomes (m.mergedInto stored) ds stored') :
      Becomes stored (.request (.patchProviderStatus name s) (.ok ()) :: ds) stored'
  /-- Nothing is written. -/
  | untouched {stored stored' : Json} {d : Deed} {ds : List Deed}
      (unwritten : d.storedProvider? = none) (rest : Becomes stored ds stored') :
      Becomes stored (d :: ds) stored'

/-- The statuses are merged one after the other. -/
lemma Provider.Becomes.eq_foldl {stored stored' : Json} {ds : List Deed}
    (h : Becomes stored ds stored') : stored' =
      (storedProviders ds).foldl (fun j s => j.mergePatch (statusPatch s.toJson)) stored := by
  induction h with
  | done stored => rfl
  | written sent _ ih =>
    obtain ⟨-, sent⟩ := Request.sends_patchProviderStatus.1 sent
    rw [ih, HttpMessage.mergedInto_of_sent? sent, HttpMessage.mergedInto_merging]
    rfl
  | untouched unwritten _ ih =>
    rw [ih, storedProviders_cons, unwritten]
    rfl

/-- If the messages can be sent, some provider is left. -/
lemma Provider.exists_becomes (stored : Json) {ds : List Deed}
    (sendable : ∀ name s out, .request (.patchProviderStatus name s) out ∈ ds →
      name.isEmpty = false ∧
        (Paths.provider name ++ "/status").toList.all Paths.isPathChar = true) :
    ∃ stored', Becomes stored ds stored' := by
  induction ds generalizing stored with
  | nil => exact ⟨stored, .done stored⟩
  | cons d ds ih =>
    have others := fun stored => ih stored fun name s out mem =>
      sendable name s out (List.mem_cons_of_mem d mem)
    cases writes : d.storedProvider? with
    | none =>
      obtain ⟨stored', rest⟩ := others stored
      exact ⟨stored', .untouched writes rest⟩
    | some s =>
      obtain ⟨name, rfl⟩ := Deed.storedProvider?_eq_some writes
      obtain ⟨named, plain⟩ := sendable name s _ List.mem_cons_self
      obtain ⟨stored', rest⟩ := others _
      have sent := HttpMessage.sent?_of_plain
        (m := .merging (Paths.provider name ++ "/status") (statusPatch s.toJson)) plain
      exact ⟨stored', .written (Request.sends_patchProviderStatus.2 ⟨named, sent⟩) rest⟩

/-! ## Checks that come again -/

/-- What decides about a provider is the same in another cluster: the Secret that holds the master
key, and how many grants refer to the provider. -/
structure Objects.StandsFor (o : Objects) (p : Provider) (o' : Objects) : Prop where
  master : ∀ k, p.spec.auth.apiKey = some k →
    o'.secrets[k.secretRef.secretKey]? = o.secrets[k.secretRef.secretKey]?
  grants : o'.referring p.name = o.referring p.name

/-- A provider as it is read again after its status has been written. -/
def Provider.reread (p : Provider) (status : Option ProviderStatus) (version : Option String) :
    Provider :=
  { p with status, metadata.resourceVersion := version }

/-- Whether a deed is a request that only reads. -/
def Deed.isReading : Deed → Bool
  | .request q _ => q.reads
  | _ => false

/-- The requests of a run that only read. -/
def readings (ds : List Deed) : List Deed := ds.filter Deed.isReading

lemma readings_append (ds es : List Deed) : readings (ds ++ es) = readings ds ++ readings es :=
  List.filter_append ..

lemma readings_of_reads {ds : List Deed} (h : ∀ d ∈ ds, d.Reads) : readings ds = ds := by
  refine List.filter_eq_self.2 fun d hd => ?_
  cases d with
  | request q out => exact h _ hd
  | publish e => exact absurd (h _ hd) id
  | measure m => exact absurd (h _ hd) id

/-- Over clusters that agree on the master Secret, two checks that fail alike come to the same. -/
lemma checkCredential_again {p : Provider} {now later : Timestamp} {o o' o₁ o₁' : Objects}
    {look look₁ es es₁ : List Deed} {check check₁ : CredentialCheck}
    (checked : (checkCredential p).Runs look check) (allowed : o.Allows now look o')
    (checked₁ : (checkCredential p).Runs look₁ check₁) (allowed₁ : o₁.Allows later look₁ o₁')
    (stands : o.StandsFor p o₁) (alike : FailAlike (look ++ es) (look₁ ++ es₁)) :
    check₁ = check ∧ FailAlike es es₁ := by
  rcases checkCredential_cases p with ⟨c, runs⟩ | ⟨k, block, runs⟩
  · obtain ⟨rfl, rfl⟩ := (runs _ _).1 checked
    obtain ⟨rfl, rfl⟩ := (runs _ _).1 checked₁
    exact ⟨rfl, alike⟩
  · obtain ⟨outcome, rfl, rfl⟩ := (runs _ _).1 checked
    obtain ⟨outcome₁, rfl, rfl⟩ := (runs _ _).1 checked₁
    obtain ⟨same, alike⟩ := failAlike_cons.1 alike
    refine ⟨?_, alike⟩
    cases outcome with
    | error e =>
      cases outcome₁ with
      | error e₁ =>
        obtain rfl := Option.some.inj same
        rfl
      | ok secret₁ => cases same
    | ok secret =>
      cases outcome₁ with
      | error e₁ => cases same
      | ok secret₁ =>
        have held : o.secrets[k.secretRef.secretKey]? = secret := allowed.1
        have held₁ : o₁.secrets[k.secretRef.secretKey]? = secret₁ := allowed₁.1
        rw [← held, ← held₁, stands.master k block]

/-! ## Passes -/

namespace ProviderPass

variable {now later : Timestamp} {p : Provider} {check check₁ : CredentialCheck}
  {listed listed₁ : Listing} {look look₁ ds ds₁ : List Deed}
  {r r₁ : Except ReconcileFailure Action} {a : Action} {o o' o₁ o₁' : Objects}
  {version : Option String} {s : ProviderStatus} {stored stored' : Json}

lemma tells_iff {c : Condition} (type : c.type = readyType) :
    c.Tells p check ↔ Condition.sameState c (condition now p check) = true := by
  rw [Condition.sameState_iff]
  constructor
  · rintro ⟨status, reason, message, generation⟩
    exact ⟨type, status, reason, message, generation⟩
  · rintro ⟨-, status, reason, message, generation⟩
    exact ⟨status, reason, message, generation⟩

/-- Whether the conditions have to be changed. -/
lemma tells_iff_equivalent :
    (∃ c, Condition.find? (p.status.getD {}).conditions readyType = some c ∧ c.Tells p check) ↔
      Condition.equivalent (p.status.getD {}).conditions
        (computedStatus now p check listed).conditions = true := by
  rw [computedStatus_conditions, Condition.equivalent_set_iff]
  refine exists_congr fun c => and_congr_right fun found => ?_
  exact tells_iff (Condition.find?_type found)

lemma isStale_eq_false_iff : isStale now s = false ↔ s.CheckedLately now := by
  have limit : checkRefreshAge.nanos = 240 * 1000000000 := rfl
  unfold isStale ProviderStatus.CheckedLately
  cases s.lastCredentialCheck with
  | none => simp
  | some last =>
    simp only [limit, Bool.or_eq_false_iff, decide_eq_false_iff_not, Option.some.injEq,
      exists_eq_left']
    omega

/-- A run writes the status of a provider, or tries to. -/
def Writes (ds : List Deed) : Prop :=
  ∃ name s outcome, Deed.request (.patchProviderStatus name s) outcome ∈ ds

/-! ### What a course asks and writes -/

lemma request_mem_leadDeeds {q : Request} {out : q.Outcome} :
    Deed.request q out ∈ leadDeeds p check listed look ↔
      Deed.request q out ∈ look ∨ Deed.request q out = .request (.listGrantsOf p.name) listed := by
  simp [leadDeeds]

lemma request_not_mem_news {q : Request} {out : q.Outcome} :
    Deed.request q out ∉ news p check := by
  unfold news
  cases event? p check <;> simp

/-- Checking a provider is neither listing grants nor writing. -/
lemma look_eq_of_runs (checked : (checkCredential p).Runs look check) {q : Request}
    {out : q.Outcome} (mem : .request q out ∈ look) : ∃ key, q = .checkSecret key := by
  rcases checkCredential_cases p with ⟨c, runs⟩ | ⟨k, -, runs⟩
  · simp [((runs _ _).1 checked).1] at mem
  · obtain ⟨outcome, rfl, -⟩ := (runs _ _).1 checked
    cases List.mem_singleton.1 mem
    exact ⟨_, rfl⟩

/-- The grants are listed once. -/
lemma Course.listed_iff (course : Course now p check listed look ds r)
    (checked : (checkCredential p).Runs look check) {out : Listing} :
    .request (.listGrantsOf p.name) out ∈ ds ↔ out = listed := by
  have other : Deed.request (.listGrantsOf p.name) out ∉ look := fun mem => by
    obtain ⟨key, same⟩ := look_eq_of_runs checked mem
    cases same
  have lead : Deed.request (.listGrantsOf p.name) out ∈ leadDeeds p check listed look ↔
      out = listed := by
    rw [request_mem_leadDeeds, or_iff_right other]
    simp
  cases course with
  | kept _ => rw [List.mem_append, lead, or_iff_left request_not_mem_news]
  | unwritten _ e => simp [lead]
  | written _ => simp [lead, request_not_mem_news]

lemma patch_not_mem_leadDeeds (checked : (checkCredential p).Runs look check) {name : String}
    {out : Except ApiFailure Unit} :
    Deed.request (.patchProviderStatus name s) out ∉ leadDeeds p check listed look := by
  intro mem
  rcases request_mem_leadDeeds.1 mem with mem | same
  · obtain ⟨key, same⟩ := look_eq_of_runs checked mem
    cases same
  · cases same

/-- A pass writes if it has to. -/
lemma Course.writes_iff (course : Course now p check listed look ds r)
    (checked : (checkCredential p).Runs look check) :
    Writes ds ↔ mustWrite now p check listed = true := by
  cases course with
  | kept good => simp [Writes, patch_not_mem_leadDeeds checked, request_not_mem_news, good]
  | unwritten bad e =>
    exact iff_of_true ⟨_, _, _, List.mem_append_right _ (List.mem_singleton_self _)⟩ bad
  | written bad => exact iff_of_true ⟨_, _, _, List.mem_append_right _ List.mem_cons_self⟩ bad

/-- A pass writes to no other provider. -/
lemma Course.name_of_patch {name : String} {out : Except ApiFailure Unit}
    (course : Course now p check listed look ds r) (checked : (checkCredential p).Runs look check)
    (mem : .request (.patchProviderStatus name s) out ∈ ds) : name = p.name := by
  cases course with
  | kept _ =>
    simp [patch_not_mem_leadDeeds checked, request_not_mem_news] at mem
  | unwritten _ e =>
    obtain ⟨⟨rfl, -⟩, -⟩ := by simpa [patch_not_mem_leadDeeds checked] using mem
    rfl
  | written _ =>
    obtain ⟨⟨rfl, -⟩, -⟩ := by
      simpa [patch_not_mem_leadDeeds checked, request_not_mem_news] using mem
    rfl

/-- A course begins with the check and the question for the grants. -/
lemma Course.begins (course : Course now p check listed look ds r) :
    ∃ rest, ds = look ++ .measure (.providerHealth p.name p.spec.provider.text check.healthy) ::
      .request (.listGrantsOf p.name) listed :: rest := by
  have lead : ∀ rest, leadDeeds p check listed look ++ rest =
      look ++ .measure (.providerHealth p.name p.spec.provider.text check.healthy) ::
        .request (.listGrantsOf p.name) listed :: rest := by simp [leadDeeds]
  cases course with
  | kept _ => exact ⟨_, lead _⟩
  | unwritten _ e => exact ⟨_, lead _⟩
  | written _ => exact ⟨_, lead _⟩

lemma Course.looked (course : Course now p check listed look ds r) (allowed : o.Allows now ds o') :
    ∃ o₁, o.Allows now look o₁ := by
  obtain ⟨rest, rfl⟩ := course.begins
  obtain ⟨o₁, looked, -⟩ := Objects.allows_append.1 allowed
  exact ⟨o₁, looked⟩

/-- The grants that are listed are those that refer to the provider. -/
lemma Course.length_listed {grants : List Grant}
    (course : Course now p check (.ok grants) look ds r)
    (checked : (checkCredential p).Runs look check) (allowed : o.Allows now ds o') :
    grants.length = o.referring p.name := by
  obtain ⟨rest, rfl⟩ := course.begins
  obtain ⟨o₁, looked, asked⟩ := Objects.allows_append.1 allowed
  obtain rfl := Objects.allows_of_quiet (fun d hd => (checkCredential_reads checked d hd).quiet)
    looked
  obtain ⟨rfl, -⟩ := Objects.allows_ok.1 (Objects.allows_measure.1 asked)
  exact List.countP_eq_length_filter.symm

/-- The right count is that of the status which the pass computes. -/
lemma Course.counts_iff (course : Course now p check listed look ds r)
    (checked : (checkCredential p).Runs look check) (allowed : o.Allows now ds o') {n : Int} :
    p.Counts o ds n ↔ n = (computedStatus now p check listed).grantCount := by
  unfold Provider.Counts
  simp only [course.listed_iff checked]
  cases listed with
  | ok grants =>
    rw [computedStatus_grantCount_ok, course.length_listed checked allowed]
    simp
  | error e =>
    rw [computedStatus_grantCount_error]
    simp

/-- A pass has to write unless the status is up to date. -/
lemma Course.mustWrite_iff (course : Course now p check listed look ds r)
    (checked : (checkCredential p).Runs look check) (allowed : o.Allows now ds o') :
    mustWrite now p check listed = false ↔
      (p.status.getD {}).UpToDate now o p check ds := by
  rw [mustWrite, Bool.or_eq_false_iff, isStale_eq_false_iff, differs, Bool.or_eq_false_iff,
    Bool.not_eq_false', ← tells_iff_equivalent, bne_eq_false_iff_eq,
    ← course.counts_iff checked allowed]
  constructor
  · rintro ⟨⟨ready, count⟩, lately⟩
    exact ⟨ready, count, lately⟩
  · rintro ⟨ready, count, lately⟩
    exact ⟨⟨ready, count⟩, lately⟩

/-- The status that a pass computes is up to date. -/
lemma Course.upToDate (course : Course now p check listed look ds r)
    (checked : (checkCredential p).Runs look check) (allowed : o.Allows now ds o') :
    (computedStatus now p check listed).UpToDate now o p check ds where
  ready := by
    obtain ⟨c, found, like⟩ := find?_computedStatus now p check listed
    exact ⟨c, found, (tells_iff (Condition.find?_type found)).2 like⟩
  count := (course.counts_iff checked allowed).2 rfl
  checked := ⟨now, rfl, by simp [Timestamp.since], by simp [Timestamp.since]⟩

/-! ### What a pass leaves -/

/-- The status that a pass computes can be stored. -/
lemma storable_computedStatus (clock : now.OnCalendar)
    (fits : ∀ n, p.metadata.generation = some n → FitsInt64 n)
    (before : (p.status.getD {}).Storable) : (computedStatus now p check listed).Storable where
  conditions := Condition.Storable.set before.conditions ⟨clock, fits⟩
  checked := by
    rintro t ⟨⟩
    exact clock
  count := by
    cases listed with
    | ok grants =>
      have most : Nat.min grants.length largestCount ≤ largestCount := Nat.min_le_right _ _
      rw [computedStatus_grantCount_ok]
      unfold FitsInt32
      unfold largestCount at most ⊢
      omega
    | error e => exact before.count

/-- A pass that does not fail leaves the provider with a status that is up to date: the one that it
computes if it writes, else the one before. -/
lemma Course.leaves (course : Course now p check listed look ds (.ok a))
    (checked : (checkCredential p).Runs look check) (allowed : o.Allows now ds o')
    (read : Provider.ofJson? stored = some p) (clock : now.OnCalendar)
    (whole : stored' =
      (storedProviders ds).foldl (fun j s => j.mergePatch (statusPatch s.toJson)) stored) :
    ∃ t, Provider.ofJson? stored' = some { p with status := some t } ∧
      t.UpToDate now o p check ds ∧
      (mustWrite now p check listed = false ∧ p.status = some t ∨
        mustWrite now p check listed = true ∧ t = computedStatus now p check listed) := by
  rcases course.told (checkCredential_reads checked) with
    ⟨⟨e, failed⟩, -, -⟩ | ⟨-, ⟨good, nothing⟩ | ⟨bad, one⟩⟩
  · cases failed
  · have upToDate := (course.mustWrite_iff checked allowed).1 good
    rw [nothing] at whole
    obtain ⟨last, dated, -⟩ := upToDate.checked
    cases before : p.status with
    | none => simp [before] at dated
    | some t =>
      rw [before] at upToDate
      refine ⟨t, ?_, upToDate, .inl ⟨good, rfl⟩⟩
      rw [whole, ← before]
      exact read
  · rw [one] at whole
    have storable : (computedStatus now p check listed).Storable :=
      storable_computedStatus clock (Provider.fits_of_ofJson? read)
        (Provider.storable_of_ofJson? read)
    have merged := Provider.ofJson?_merge read storable
    rw [ProviderStatus.laidOver_eq_self _ (Condition.set_ne_nil _ _) rfl] at merged
    refine ⟨_, ?_, course.upToDate checked allowed, .inr ⟨bad, rfl⟩⟩
    rw [whole]
    exact merged

/-! ### Passes soon after -/

/-- A course reads what the check does, and lists the grants. -/
lemma Course.readings_eq (course : Course now p check listed look ds r)
    (checked : (checkCredential p).Runs look check) :
    readings ds = look ++ [.request (.listGrantsOf p.name) listed] := by
  have lead : readings (leadDeeds p check listed look) =
      look ++ [.request (.listGrantsOf p.name) listed] := by
    rw [leadDeeds, readings_append, readings_of_reads (checkCredential_reads checked)]
    rfl
  have told : readings (news p check) = [] := by
    unfold news
    cases event? p check <;> rfl
  have patch : ∀ out rest, readings (.request (.patchProviderStatus p.name
      (computedStatus now p check listed)) out :: rest) = readings rest := fun _ _ => rfl
  cases course with
  | kept _ => rw [readings_append, lead, told, List.append_nil]
  | unwritten _ e =>
    rw [readings_append, lead, patch]
    exact List.append_nil _
  | written _ => rw [readings_append, lead, patch, told, List.append_nil]

/-- Soon after a pass that wrote, a pass that finds the same need not write. -/
lemma Course.upToDate_again (course : Course now p check listed look ds r)
    (checked : (checkCredential p).Runs look check) (allowed : o.Allows now ds o')
    (course₁ : Course later (p.reread (some (computedStatus now p check listed)) version) check₁
      listed₁ look₁ ds₁ r₁)
    (checked₁ : (checkCredential p).Runs look₁ check₁) (allowed₁ : o₁.Allows later ds₁ o₁')
    (stands : o.StandsFor p o₁) (alike : FailAlike (readings ds) (readings ds₁))
    (after : 0 ≤ later.since now) (soon : later.since now < 240 * 1000000000) :
    mustWrite later (p.reread (some (computedStatus now p check listed)) version) check₁ listed₁ =
      false := by
  obtain ⟨_, looked⟩ := course.looked allowed
  obtain ⟨_, looked₁⟩ := course₁.looked allowed₁
  rw [course.readings_eq checked, course₁.readings_eq checked₁] at alike
  obtain ⟨rfl, alike⟩ := checkCredential_again checked looked checked₁ looked₁ stands alike
  obtain ⟨same, -⟩ := failAlike_cons.1 alike
  refine (course₁.mustWrite_iff checked₁ allowed₁).2 ⟨?_, ?_, now, rfl, after, soon⟩
  · -- the reading changes neither the generation nor the condition
    obtain ⟨c, found, tells⟩ := (course.upToDate checked allowed).ready
    exact ⟨c, found, tells.status, tells.reason, tells.message, tells.generation⟩
  · refine (course₁.counts_iff checked₁ allowed₁).2 ?_
    cases listed with
    | ok grants =>
      cases listed₁ with
      | ok grants₁ =>
        have count : grants₁.length = grants.length := by
          rw [course.length_listed checked allowed, course₁.length_listed checked₁ allowed₁]
          exact stands.grants
        rw [computedStatus_grantCount_ok, count]
        rfl
      | error e₁ => cases same
    | error e =>
      cases listed₁ with
      | ok grants₁ => cases same
      | error e₁ => rfl

/-! ### With the measurement at the end -/

lemma request_not_mem_endDeeds {q : Request} {out : q.Outcome} :
    Deed.request q out ∉ Pass.endDeeds .providers r := by
  cases r <;> simp [Pass.endDeeds]

lemma writes_append_endDeeds : Writes (ds ++ Pass.endDeeds .providers r) ↔ Writes ds := by
  simp [Writes, request_not_mem_endDeeds]

lemma upToDate_append_endDeeds :
    s.UpToDate now o p check (ds ++ Pass.endDeeds .providers r) ↔ s.UpToDate now o p check ds := by
  have counts : ∀ n, p.Counts o (ds ++ Pass.endDeeds .providers r) n ↔ p.Counts o ds n := by
    simp [Provider.Counts, request_not_mem_endDeeds]
  exact ⟨fun h => ⟨h.ready, (counts _).1 h.count, h.checked⟩,
    fun h => ⟨h.ready, (counts _).2 h.count, h.checked⟩⟩

lemma readings_append_endDeeds : readings (ds ++ Pass.endDeeds .providers r) = readings ds := by
  rw [readings_append]
  cases r <;> exact List.append_nil _

/-- Passes that come soon enough after a pass at `now`, find the provider with a status, and all
else as it was, and fail to read where that pass did, write nothing. -/
def Rests (now : Timestamp) (o : Objects) (p : Provider) (ds : List Deed) (t : ProviderStatus) :
    Prop :=
  ∀ later version o₁ o₁' ds₁ r₁, 0 ≤ later.since now → later.since now < 240 * 1000000000 →
    o.StandsFor p o₁ → (reconcileProvider later (p.reread (some t) version)).run.Runs ds₁ r₁ →
    o₁.Allows later ds₁ o₁' → FailAlike (readings ds) (readings ds₁) → ¬ Writes ds₁

/-- A pass that wrote lets the next ones rest. -/
lemma Course.rests (course : Course now p check listed look ds r)
    (checked : (checkCredential p).Runs look check) (allowed : o.Allows now ds o') :
    Rests now o p (ds ++ Pass.endDeeds .providers r) (computedStatus now p check listed) := by
  intro later version o₁ o₁' ds₁ r₁ after soon stands runs₁ allowed₁ alike
  obtain ⟨check₁, listed₁, look₁, es₁, checked₁, course₁, rfl⟩ := course_of_runs runs₁
  obtain ⟨o₂, allowed₁, -⟩ := Objects.allows_append.1 allowed₁
  rw [readings_append_endDeeds, readings_append_endDeeds] at alike
  have good := course.upToDate_again checked allowed course₁ checked₁ allowed₁ stands alike after
    soon
  rw [writes_append_endDeeds, course₁.writes_iff checked₁, good]
  simp

end ProviderPass

/-- A pass over a stored provider writes exactly if the status is not up to date.  If it does not
fail, the stored provider is read with a status that is, and it has written exactly if this one has
other conditions, but for times, or another count, or the check was not recorded lately.  In that
case the passes that come soon after and find the same write nothing. -/
theorem provider_status_up_to_date {stored stored' : Json} {p : Provider} {now : Timestamp}
    {o o' : Objects} {ds : List Deed} {r : Except ReconcileFailure Action}
    (read : Provider.ofJson? stored = some p) (clock : now.OnCalendar)
    (runs : (reconcileProvider now p).run.Runs ds r) (allowed : o.Allows now ds o')
    (becomes : Provider.Becomes stored ds stored') :
    ∃ check look rest, ds = look ++ rest ∧ (checkCredential p).Runs look check ∧
      (ProviderPass.Writes ds ↔ ¬ (p.status.getD {}).UpToDate now o p check ds) ∧
      ∀ a, r = .ok a → ∃ t, Provider.ofJson? stored' = some { p with status := some t } ∧
        t.UpToDate now o p check ds ∧
        (ProviderPass.Writes ds ↔
          Condition.equivalent (p.status.getD {}).conditions t.conditions = false ∨
            (p.status.getD {}).grantCount ≠ t.grantCount ∨
            ¬ (p.status.getD {}).CheckedLately now) ∧
        (ProviderPass.Writes ds → ProviderPass.Rests now o p ds t) := by
  have whole := becomes.eq_foldl
  obtain ⟨check, listed, look, es, checked, course, rfl⟩ := ProviderPass.course_of_runs runs
  rw [ProviderPass.storedProviders_append_endDeeds] at whole
  obtain ⟨o₁, carried, -⟩ := Objects.allows_append.1 allowed
  obtain ⟨rest, begins⟩ := course.begins
  have writes := course.writes_iff checked
  have outdated := course.mustWrite_iff checked carried
  simp only [ProviderPass.writes_append_endDeeds, ProviderPass.upToDate_append_endDeeds]
  refine ⟨check, look, _, by rw [begins, List.append_assoc], checked, ?_, ?_⟩
  · rw [writes, ← outdated, Bool.not_eq_false]
  rintro a rfl
  obtain ⟨t, read', upToDate, ⟨good, before⟩ | ⟨bad, rfl⟩⟩ :=
    course.leaves checked carried read clock whole
  · have silent : ¬ ProviderPass.Writes es := fun wrote => by simp [writes.1 wrote] at good
    refine ⟨t, read', upToDate, iff_of_false silent ?_, fun wrote => absurd wrote silent⟩
    rw [before, Option.getD_some]
    rintro (changed | changed | unrecorded)
    · simp [Condition.equivalent_refl] at changed
    · exact changed rfl
    · exact unrecorded upToDate.checked
  · refine ⟨_, read', upToDate, iff_of_true (writes.2 bad) ?_,
      fun _ => course.rests checked carried⟩
    simp only [ProviderPass.mustWrite, ProviderPass.differs, Bool.or_eq_true, Bool.not_eq_true',
      bne_iff_ne] at bad
    rcases bad with (changed | changed) | stale
    · exact .inl changed
    · exact .inr (.inl changed)
    · refine .inr (.inr fun lately => ?_)
      simp [ProviderPass.isStale_eq_false_iff.2 lately] at stale

/-- A pass over the provider of the small cluster, which has no status, writes one that is up to
date, and the next pass over it writes nothing. -/
theorem sample_provider_status_up_to_date :
    ∃ ds stored' check t ds₁, Provider.Becomes Sample.provider.toJson ds stored' ∧
      ProviderPass.Writes ds ∧
      Provider.ofJson? stored' = some { Sample.provider with status := some t } ∧
      t.UpToDate .epoch Sample.objects Sample.provider check ds ∧
      (∃ r₁, (reconcileProvider .epoch (Sample.provider.reread (some t) none)).run.Runs ds₁ r₁) ∧
      ¬ ProviderPass.Writes ds₁ := by
  have read : Provider.ofJson? Sample.provider.toJson = some Sample.provider := by rfl
  have clock : Timestamp.epoch.OnCalendar := by decide
  obtain ⟨ds, r, o', runs, allowed, undisturbed⟩ :=
    Sample.objects.exists_undisturbed .epoch (reconcileProvider .epoch Sample.provider).run
  obtain ⟨stored', becomes⟩ : ∃ stored', Provider.Becomes Sample.provider.toJson ds stored' := by
    obtain ⟨_, _, _, _, checked, course, rfl⟩ := ProviderPass.course_of_runs runs
    refine Provider.exists_becomes _ fun name s out mem => ?_
    have own := (List.mem_append.1 mem).resolve_right ProviderPass.request_not_mem_endDeeds
    obtain rfl := course.name_of_patch checked own
    decide
  have ended : r = .ok (.requeueSeconds 300) := by
    obtain ⟨_, _, _, _, -, course, rfl⟩ := ProviderPass.course_of_runs runs
    exact course.ok_of_undisturbed (undisturbed_append.1 undisturbed).1
  obtain ⟨check, look, rest, -, -, writes, left⟩ :=
    provider_status_up_to_date read clock runs allowed becomes
  obtain ⟨t, read', upToDate, -, rests⟩ := left _ ended
  have wrote : ProviderPass.Writes ds := writes.2 fun old => by
    obtain ⟨last, dated, -⟩ := old.checked
    cases dated
  obtain ⟨ds₁, r₁, o₁', runs₁, allowed₁, undisturbed₁⟩ := Sample.objects.exists_undisturbed .epoch
    (reconcileProvider .epoch (Sample.provider.reread (some t) none)).run
  refine ⟨ds, stored', check, t, ds₁, becomes, wrote, read', upToDate, ⟨r₁, runs₁⟩, ?_⟩
  refine rests wrote .epoch none Sample.objects o₁' ds₁ r₁ (by decide) (by decide)
    ⟨fun _ _ => rfl, rfl⟩ runs₁ allowed₁ ?_
  exact .of_undisturbed (fun d mem => undisturbed d (List.mem_of_mem_filter mem))
    fun d mem => undisturbed₁ d (List.mem_of_mem_filter mem)

end CredentialOperator
