import CredentialOperator.Proofs.Provision.Attempt

/-!
# How far the copying has come

The status of an ExternalSecret is written by somebody else, and may be any value.  What is read
off it is decided by one entry of its conditions, the first that is about readiness
(`SyncStatus.Decisive`); if there is none, nothing was copied yet.  There is always an explanation:
the message of this entry, else its reason, else a text that tells what is missing
(`SyncStatus.Explained`).  The health of the artifact is reported accordingly
(`copying_always_told`).
-/

namespace CredentialOperator

/-- The conditions in the status of an object are a list. -/
def DynamicObject.HasConditions (o : DynamicObject) (items : List Json) : Prop :=
  ∃ status, o.get? "status" = some status ∧ status.get? "conditions" = some (.array items)

namespace SyncStatus

variable {o : DynamicObject} {items : List Json} {c : Json} {name t : String}

/-! ## The entry that decides -/

/-- A value is an entry about readiness. -/
def OnReadiness (c : Json) : Prop := c.get? "type" = some (.string "Ready")

/-- The first entry about readiness among the conditions of an object. -/
structure Decisive (o : DynamicObject) (c : Json) : Prop where
  about : OnReadiness c
  first : ∃ before after, o.HasConditions (before ++ c :: after) ∧ ∀ x ∈ before, ¬ OnReadiness x

/-- There are conditions, but none of them is about readiness. -/
def Undecided (o : DynamicObject) : Prop :=
  ∃ items, o.HasConditions items ∧ items ≠ [] ∧ ∀ x ∈ items, ¬ OnReadiness x

/-- There are no conditions. -/
def Unobserved (o : DynamicObject) : Prop := ∀ items, o.HasConditions items → items = []

lemma conditions_eq_some_iff :
    ((o.get? "status").bind (·.get? "conditions")).bind Json.asArray? = some items ↔
      o.HasConditions items := by
  have array : ∀ j : Json, j.asArray? = some items ↔ j = .array items := by
    intro j
    cases j <;> simp [Json.asArray?]
  simp only [DynamicObject.HasConditions, Option.bind_eq_some_iff, array]
  constructor
  · rintro ⟨j, ⟨status, there, listed⟩, rfl⟩
    exact ⟨status, there, listed⟩
  · rintro ⟨status, there, listed⟩
    exact ⟨_, ⟨status, there, listed⟩, rfl⟩

/-- A text is told under a name, and is not empty. -/
def Tells (c : Json) (name t : String) : Prop := c.get? name = some (.string t) ∧ t ≠ ""

lemma text?_eq_some_iff : text? c name = some t ↔ Tells c name t := by
  have text : ∀ j : Json, j.asString? = some t ↔ j = .string t := by
    intro j
    cases j <;> simp [Json.asString?]
  simp [text?, Tells, Option.filter_eq_some_iff, Option.bind_eq_some_iff, text]

lemma text?_eq_none_iff : text? c name = none ↔ ∀ t, ¬ Tells c name t := by
  rw [Option.eq_none_iff_forall_ne_some]
  exact forall_congr' fun t => not_congr text?_eq_some_iff

/-! ## The outcomes -/

lemma find?_eq_none_iff :
    (items.find? fun c => c.get? "type" = some (.string "Ready")) = none ↔
      ∀ x ∈ items, ¬ OnReadiness x := by
  simp only [List.find?_eq_none, decide_eq_true_iff, OnReadiness]

/-- The deciding entry is the one that is found. -/
lemma find?_eq_some_iff (there : o.HasConditions items) :
    (items.find? fun c => c.get? "type" = some (.string "Ready")) = some c ↔ Decisive o c := by
  simp only [List.find?_eq_some_iff_append, decide_eq_true_iff, Bool.not_eq_true',
    decide_eq_false_iff_not]
  constructor
  · rintro ⟨about, before, after, rfl, others⟩
    exact ⟨about, before, after, there, others⟩
  · rintro ⟨about, before, after, there', others⟩
    have same := (conditions_eq_some_iff.2 there).symm.trans (conditions_eq_some_iff.2 there')
    exact ⟨about, before, after, Option.some.inj same, others⟩

lemma ofObject_of_conditions (there : o.HasConditions items) (nonempty : items ≠ []) :
    ofObject o =
      (items.find? fun c => c.get? "type" = some (.string "Ready")).elim
        (pending noReadyCondition) fun c => {
          ready := c.get? "status" = some (.string "True")
          message := (text? c "message").getD ((text? c "reason").getD "no message") } := by
  obtain ⟨first, rest, rfl⟩ := List.exists_cons_of_ne_nil nonempty
  simp only [ofObject, conditions_eq_some_iff.2 there]
  cases (first :: rest).find? fun c => c.get? "type" = some (.string "Ready") <;> rfl

lemma ofObject_of_decisive (h : Decisive o c) :
    ofObject o = {
      ready := c.get? "status" = some (.string "True")
      message := (text? c "message").getD ((text? c "reason").getD "no message") } := by
  obtain ⟨before, after, there, -⟩ := h.first
  rw [ofObject_of_conditions there (by simp), (find?_eq_some_iff there).2 h, Option.elim_some]

lemma ofObject_of_undecided (h : Undecided o) : ofObject o = pending noReadyCondition := by
  obtain ⟨items, there, nonempty, others⟩ := h
  rw [ofObject_of_conditions there nonempty, find?_eq_none_iff.2 others, Option.elim_none]

lemma ofObject_of_unobserved (h : Unobserved o) : ofObject o = pending noConditions := by
  unfold ofObject
  split
  next c cs there => exact absurd (h _ (conditions_eq_some_iff.1 there)) (List.cons_ne_nil c cs)
  next => rfl

/-- One of the three is the case. -/
lemma decisive_or (o : DynamicObject) : (∃ c, Decisive o c) ∨ Undecided o ∨ Unobserved o := by
  by_cases observed : Unobserved o
  · exact .inr (.inr observed)
  · simp only [Unobserved, not_forall] at observed
    obtain ⟨items, there, nonempty⟩ := observed
    cases found : items.find? fun c => c.get? "type" = some (.string "Ready") with
    | some c => exact .inl ⟨c, (find?_eq_some_iff there).1 found⟩
    | none => exact .inr (.inl ⟨items, there, nonempty, find?_eq_none_iff.1 found⟩)

/-! ## What is told -/

/-- An explanation that is told for an object. -/
inductive Explained (o : DynamicObject) : String → Prop where
  /-- The message of the deciding entry. -/
  | message {c : Json} {t : String} (decides : Decisive o c) (told : Tells c "message" t) :
      Explained o t
  /-- Its reason, if it has no message. -/
  | reason {c : Json} {t : String} (decides : Decisive o c)
      (unsaid : ∀ t, ¬ Tells c "message" t) (told : Tells c "reason" t) : Explained o t
  /-- It has neither. -/
  | unexplained {c : Json} (decides : Decisive o c) (unsaid : ∀ t, ¬ Tells c "message" t)
      (baseless : ∀ t, ¬ Tells c "reason" t) : Explained o "no message"
  /-- No entry decides. -/
  | undecided (h : Undecided o) :
      Explained o "Ready condition not found in ExternalSecret status"
  /-- There are no conditions. -/
  | unobserved (h : Unobserved o) :
      Explained o "no status conditions yet; ESO may still be syncing"

/-- The values are ready if the deciding entry says so. -/
lemma ready_iff : (ofObject o).ready = true ↔
    ∃ c, Decisive o c ∧ c.get? "status" = some (.string "True") := by
  constructor
  · intro ready
    rcases decisive_or o with ⟨c, decides⟩ | undecided | unobserved
    · rw [ofObject_of_decisive decides, decide_eq_true_iff] at ready
      exact ⟨c, decides, ready⟩
    · rw [ofObject_of_undecided undecided] at ready
      cases ready
    · rw [ofObject_of_unobserved unobserved] at ready
      cases ready
  · rintro ⟨c, decides, said⟩
    rw [ofObject_of_decisive decides]
    exact decide_eq_true said

lemma explained_message (o : DynamicObject) : Explained o (ofObject o).message := by
  rcases decisive_or o with ⟨c, decides⟩ | undecided | unobserved
  · rw [ofObject_of_decisive decides]
    cases message : text? c "message" with
    | some t => exact .message decides (text?_eq_some_iff.1 message)
    | none =>
      have unsaid := text?_eq_none_iff.1 message
      cases reason : text? c "reason" with
      | some t => exact .reason decides unsaid (text?_eq_some_iff.1 reason)
      | none => exact .unexplained decides unsaid (text?_eq_none_iff.1 reason)
  · rw [ofObject_of_undecided undecided]
    exact .undecided undecided
  · rw [ofObject_of_unobserved unobserved]
    exact .unobserved unobserved

/-- There is one explanation, and it is the one that is told. -/
lemma Explained.eq_message (h : Explained o t) : (ofObject o).message = t := by
  cases h with
  | message decides told =>
    rw [ofObject_of_decisive decides, text?_eq_some_iff.2 told]
    rfl
  | reason decides unsaid told =>
    rw [ofObject_of_decisive decides, text?_eq_none_iff.2 unsaid, text?_eq_some_iff.2 told]
    rfl
  | unexplained decides unsaid baseless =>
    rw [ofObject_of_decisive decides, text?_eq_none_iff.2 unsaid, text?_eq_none_iff.2 baseless]
    rfl
  | undecided h =>
    rw [ofObject_of_undecided h]
    rfl
  | unobserved h =>
    rw [ofObject_of_unobserved h]
    rfl

lemma message_eq_iff : (ofObject o).message = t ↔ Explained o t :=
  ⟨fun same => same ▸ explained_message o, Explained.eq_message⟩

lemma Explained.ne_empty (h : Explained o t) : t ≠ "" := by
  cases h with
  | message _ told => exact told.2
  | reason _ _ told => exact told.2
  | unexplained | undecided | unobserved => decide

end SyncStatus

/-! ## What is reported -/

namespace DelegatedSync

variable {found : Option DynamicObject}

lemma healthy_reportOn_iff : (reportOn found).healthy = true ↔
    ∃ object, found = some object ∧ (SyncStatus.ofObject object).ready = true := by
  cases found <;> simp [reportOn, report, HealthReport.unhealthy]

/-- There is at most one warning, and there is one if what is there is not ready. -/
lemma warnings_reportOn_iff :
    ((reportOn found).warnings.length = 1 ↔
      ∃ object, found = some object ∧ (SyncStatus.ofObject object).ready = false) ∧
    (reportOn found).warnings.length ≤ 1 := by
  cases found with
  | none => simp [reportOn, HealthReport.unhealthy]
  | some object =>
    cases ready : (SyncStatus.ofObject object).ready <;> simp [reportOn, report, ready]

end DelegatedSync

/-- Whatever the status of an ExternalSecret looks like, it is told how far the copying has come.
The values are ready exactly if the status has a list of conditions of which the first entry about
readiness says that it is so, in the text `True`.  The explanation is never empty, and it is the
message of this entry, else its reason, else a text of its own.

So is the health of the artifact of a grant.  Looking at it has a run without failures, and every
such run ends with a report: healthy exactly if the ExternalSecret is there and ready, and with one
warning exactly if it is there and not ready, else with none.  If the request fails there is no
report. -/
theorem copying_always_told :
    (∀ object : DynamicObject,
      ((SyncStatus.ofObject object).ready = true ↔
        ∃ c, SyncStatus.Decisive object c ∧ c.get? "status" = some (.string "True")) ∧
      (SyncStatus.ofObject object).message ≠ "" ∧
      ∀ t, (SyncStatus.ofObject object).message = t ↔ SyncStatus.Explained object t) ∧
    ∀ (g : Grant) ns, g.metadata.ns = some ns → ∀ now (o : Objects),
      (∃ ds h o', (DelegatedSync.healthCheck g).run.Runs ds h ∧ o.Allows now ds o' ∧
        Undisturbed ds) ∧
      ∀ ds h o', (DelegatedSync.healthCheck g).run.Runs ds h → o.Allows now ds o' →
        (¬ Undisturbed ds → ∃ e, h = .error e) ∧
        (Undisturbed ds → ∃ report, h = .ok report ∧
          (report.healthy = true ↔ ∃ object,
            o.others[(⟨ns, g.spec.secretName⟩ : ObjectKey)]? = some object ∧
              (SyncStatus.ofObject object).ready = true) ∧
          (report.warnings.length = 1 ↔ ∃ object,
            o.others[(⟨ns, g.spec.secretName⟩ : ObjectKey)]? = some object ∧
              (SyncStatus.ofObject object).ready = false) ∧
          report.warnings.length ≤ 1) := by
  refine ⟨fun object => ⟨SyncStatus.ready_iff, (SyncStatus.explained_message object).ne_empty,
    fun t => SyncStatus.message_eq_iff⟩, fun g ns home now o => ⟨?_, ?_⟩⟩
  · obtain ⟨ds, h, o', runs, allowed, undisturbed⟩ :=
      o.exists_undisturbed now (DelegatedSync.healthCheck g).run
    exact ⟨ds, h, o', runs, allowed, undisturbed⟩
  · intro ds h o' runs allowed
    rcases DelegatedSync.healthCheck_runs home runs with ⟨context, e, rfl, rfl⟩ | ⟨found, rfl, rfl⟩
    · exact ⟨fun _ => ⟨_, rfl⟩,
        fun undisturbed => absurd Deed.fails_error (undisturbed_cons.1 undisturbed).1⟩
    · obtain rfl : o.others[g.artifactKey ns]? = found := allowed.1
      have undisturbed : Undisturbed [.request
          (.getDynamic externalSecretKind (g.artifactKey ns)) (.ok o.others[g.artifactKey ns]?)] :=
        undisturbed_cons.2 ⟨Deed.fails_ok, undisturbed_nil⟩
      exact ⟨fun disturbed => absurd undisturbed disturbed,
        fun _ => ⟨_, rfl, DelegatedSync.healthy_reportOn_iff, DelegatedSync.warnings_reportOn_iff⟩⟩

namespace Sample

/-- Conditions of which the second is about readiness and explains itself by its reason, and the
third says otherwise. -/
def contested : List Json :=
  [.null,
    .object [("type", .string "Ready"), ("status", .string "False"), ("message", .string ""),
      ("reason", .string "SecretSyncedError")],
    .object [("type", .string "Ready"), ("status", .string "True")]]

/-- An ExternalSecret with such conditions. -/
def contestedObject : DynamicObject where
  type := none
  metadata := {}
  data := [("status", .object [("conditions", .array contested)])]

/-- A grant whose key is copied from a store. -/
def copiedGrant : Grant where
  metadata := { name := some "chat", ns := some "team" }
  spec := { provider := "vault", secretName := "chat-key" }

/-- A cluster in which the ExternalSecret stands at the place of the artifact. -/
def copying : Objects where
  others := (∅ : KeyMap DynamicObject).insert ⟨"team", "chat-key"⟩ contestedObject

lemma decisive_contested : SyncStatus.Decisive contestedObject contested[1] :=
  ⟨rfl, [.null], [contested[2]], ⟨_, rfl, rfl⟩, by simp [SyncStatus.OnReadiness, Json.get?]⟩

end Sample

/-- The first entry about readiness wins, and its reason explains what it says; the artifact is
reported not to be healthy, with a warning. -/
theorem sample_copying_always_told :
    (SyncStatus.ofObject Sample.contestedObject).message = "SecretSyncedError" ∧
    Sample.copiedGrant.metadata.ns = some "team" ∧
    ∃ ds report o', (DelegatedSync.healthCheck Sample.copiedGrant).run.Runs ds (.ok report) ∧
      Sample.copying.Allows .epoch ds o' ∧ Undisturbed ds ∧
      report.healthy = false ∧ report.warnings.length = 1 := by
  obtain ⟨told, looked⟩ := copying_always_told
  obtain ⟨-, -, explained⟩ := told Sample.contestedObject
  have reason : SyncStatus.Explained Sample.contestedObject "SecretSyncedError" :=
    .reason Sample.decisive_contested (by simp [SyncStatus.Tells, Sample.contested, Json.get?,
      Json.lookup]) ⟨rfl, by decide⟩
  obtain ⟨⟨ds, h, o', runs, allowed, undisturbed⟩, every⟩ :=
    looked Sample.copiedGrant "team" rfl .epoch Sample.copying
  obtain ⟨report, rfl, healthy, warned, -⟩ := (every ds h o' runs allowed).2 undisturbed
  have there : Sample.copying.others[(⟨"team", "chat-key"⟩ : ObjectKey)]? =
      some Sample.contestedObject := Std.ExtTreeMap.getElem?_insert_self
  have not_ready : (SyncStatus.ofObject Sample.contestedObject).ready = false := by decide +kernel
  refine ⟨(explained _).2 reason, rfl, ds, report, o', runs, allowed, undisturbed, ?_,
    warned.2 ⟨_, there, not_ready⟩⟩
  rw [Bool.eq_false_iff, ne_eq, healthy]
  rintro ⟨object, found, said⟩
  obtain rfl := Option.some.inj (there.symm.trans found)
  exact Bool.false_ne_true (not_ready.symm.trans said)

end CredentialOperator
