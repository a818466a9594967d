import CredentialOperator.Admission.GrantRules
import CredentialOperator.Proofs.Admission.Equipment
import CredentialOperator.Proofs.Time.Intervals
import CredentialOperator.Provision.DelegatedSync
import CredentialOperator.Reconcile.Rotation

/-!
# Requests that keep the rules

A request is stored only if it keeps the rules for grants.  Whatever reads the request later reads
the same fields again, each in its own way, and passes over what it cannot use.  A request that
keeps the rules gives no occasion for that (`admitted_settings_honoured`): its own interval of
rotation is the one in force, also as it is written for the store, and its selector decides alone
which pods are given the credential.
-/

namespace CredentialOperator

/-! ## The rules -/

namespace GrantSpec

/-- A request keeps the rules for grants. -/
structure KeepsRules (s : GrantSpec) : Prop where
  /-- A provider is named. -/
  provider : s.provider ≠ ""
  /-- An artifact is named. -/
  secretName : s.secretName ≠ ""
  /-- Pods are given something. -/
  injection : s.injection.env ≠ [] ∨ s.injection.volume ≠ none
  /-- The names of variables are allowed. -/
  envNames : ∀ m ∈ s.injection.env, isEnvName m.name = true
  /-- The path of the directory begins at the root. -/
  directory : ∀ v, s.injection.volume = some v → v.mountPath.toList.head? = some '/'
  /-- The interval of rotation is one. -/
  interval : ∀ t, s.rotationInterval? = some t → ∃ i, Interval.parse t = .ok i
  /-- The selector of pods is allowed. -/
  selector : ∀ w, s.workloadSelector = some w → w.check = .ok ()

variable {s : GrantSpec}

lemma badEnvName?_eq_none_iff {index : Nat} {env : List EnvMapping} :
    badEnvName? index env = none ↔ ∀ m ∈ env, isEnvName m.name = true := by
  induction env generalizing index with
  | nil => simp [badEnvName?]
  | cons m rest ih =>
    cases allowed : isEnvName m.name <;> simp [badEnvName?, allowed, ih]

lemma badVolume?_eq_none_iff {volume : Option VolumeMapping} :
    badVolume? volume = none ↔ ∀ v, volume = some v → v.mountPath.toList.head? = some '/' := by
  cases volume with
  | none => simp [badVolume?]
  | some v =>
    cases path : v.mountPath.toList with
    | nil => simp [badVolume?, path]
    | cons c rest => by_cases root : c = '/' <;> simp [badVolume?, path, root]

lemma badInterval?_eq_none_iff {interval : Option String} :
    badInterval? interval = none ↔ ∀ t, interval = some t → ∃ i, Interval.parse t = .ok i := by
  cases interval with
  | none => simp [badInterval?]
  | some t => cases read : Interval.parse t <;> simp [badInterval?, read]

lemma badSelector?_eq_none_iff {selector : Option Selector} :
    badSelector? selector = none ↔ ∀ w, selector = some w → w.check = .ok () := by
  cases selector with
  | none => simp [badSelector?]
  | some w => cases checked : w.check <;> simp [badSelector?, checked]

/-- No violation is found if and only if the rules are kept. -/
lemma violation?_eq_none_iff : s.violation? = none ↔ s.KeepsRules := by
  have each : s.violation? = none ↔ (s.provider ≠ "" ∧ s.secretName ≠ "" ∧
      (s.injection.env ≠ [] ∨ s.injection.volume ≠ none)) ∧
      badEnvName? 0 s.injection.env = none ∧ badVolume? s.injection.volume = none ∧
      badInterval? s.rotationInterval? = none ∧ badSelector? s.workloadSelector = none := by
    unfold violation?
    split_ifs with noProvider noName noInjection
    · simp_all
    · simp_all
    · simp_all
    · have given : s.injection.env ≠ [] ∨ s.injection.volume ≠ none := by
        simpa [imp_iff_not_or] using noInjection
      simp only [String.isEmpty_iff] at noProvider noName
      simp [Option.or_eq_none_iff, and_assoc, noProvider, noName, given]
  rw [each, badEnvName?_eq_none_iff, badVolume?_eq_none_iff, badInterval?_eq_none_iff,
    badSelector?_eq_none_iff]
  constructor
  · rintro ⟨⟨h₁, h₂, h₃⟩, h₄, h₅, h₆, h₇⟩
    exact ⟨h₁, h₂, h₃, h₄, h₅, h₆, h₇⟩
  · rintro ⟨h₁, h₂, h₃, h₄, h₅, h₆, h₇⟩
    exact ⟨⟨h₁, h₂, h₃⟩, h₄, h₅, h₆, h₇⟩

lemma keepsRules_of_validate {resource : String} {warnings : List String}
    (admitted : s.validate resource = .ok warnings) : s.KeepsRules := by
  rw [← violation?_eq_none_iff]
  unfold validate at admitted
  split at admitted
  · cases admitted
  · assumption

/-! ## What is made of them -/

namespace KeepsRules

/-- An interval that is given is in force, whatever the provider says. -/
lemma interval_in_force (kept : s.KeepsRules) {t : String}
    (given : s.rotation.bind (·.interval) = some t) (not_empty : t ≠ "") :
    ∃ i, Interval.parse t = .ok i ∧ Interval.parse? s.rotationInterval? = some i := by
  have own : s.rotationInterval? = some t := by simp [rotationInterval?, given, not_empty]
  obtain ⟨i, read⟩ := kept.interval t own
  exact ⟨i, read, Interval.parse?_eq_some.2 ⟨t, own, read⟩⟩

/-- The selector is valid. -/
lemma isValid (kept : s.KeepsRules) {w : Selector} (given : s.workloadSelector = some w) :
    w.isValid = true := by
  rw [Selector.isValid, kept.selector w given]
  rfl

end KeepsRules

end GrantSpec

/-- What is admitted is honoured: an interval of rotation that an admitted request gives is the
one in force with every provider and is what the store is told to refresh after, and pods are
picked by its selector alone, which is never passed over as invalid. -/
theorem admitted_settings_honoured {s : GrantSpec} {resource : String} {warnings : List String}
    (admitted : s.validate resource = .ok warnings) :
    (∀ t, s.rotation.bind (·.interval) = some t → t ≠ "" →
      ∃ i, Interval.parse t = .ok i ∧ 0 < i.seconds ∧
        (∀ provider, rotationInterval? s provider = some i) ∧
        ∀ p, Interval.parse (DelegatedSync.refreshInterval s.rotationInterval? p) = .ok i) ∧
    (∀ w, s.workloadSelector = some w → w.isValid = true) ∧
    ∀ (g : Grant) labels, g.spec = s →
      (g.selects labels = true ↔ ∃ w, s.workloadSelector = some w ∧ w.accepts labels = true) := by
  have kept := GrantSpec.keepsRules_of_validate admitted
  refine ⟨fun t given not_empty => ?_, fun w given => kept.isValid given, ?_⟩
  · obtain ⟨i, read, in_force⟩ := kept.interval_in_force given not_empty
    refine ⟨i, read, Interval.parse?_pos in_force, fun provider => ?_, fun p => ?_⟩
    · simp [CredentialOperator.rotationInterval?, in_force]
    · simp only [DelegatedSync.refreshInterval, in_force]
      exact Interval.parse_hoursOrMinutes read
  · rintro g labels rfl
    rw [Grant.selects_iff]
    constructor
    · rintro ⟨w, given, -, accepted⟩
      exact ⟨w, given, accepted⟩
    · rintro ⟨w, given, accepted⟩
      exact ⟨w, given, kept.isValid given, accepted⟩

namespace Sample

/-- A grant that is rotated every month and picks the pods of an application. -/
def monthly : Grant where
  metadata := { name := some "chatbot-openai", ns := some "team-a" }
  spec := {
    provider := "openai-prod"
    secretName := "chatbot-openai-key"
    rotation := some { interval := some "30d" }
    injection := { env := [⟨"OPENAI_API_KEY", "apiKey"⟩] }
    workloadSelector := some (Selector.ofPairs [("app", "chatbot")]) }

end Sample

/-- The grant of the sample has one interval for its rotations and for the store, also where the
provider has another, and picks the pods of its application. -/
theorem sample_admitted_settings_honoured :
    (∃ i, Interval.parse "30d" = .ok i ∧ Interval.parse
      (DelegatedSync.refreshInterval Sample.monthly.spec.rotationInterval? (some "1d")) = .ok i) ∧
    Sample.monthly.selects (Std.ExtTreeMap.ofList [("app", "chatbot")]) = true := by
  have admitted : Sample.monthly.spec.validate "team-a/chatbot-openai" = .ok [] := by
    decide +kernel
  obtain ⟨intervals, -, picked⟩ := admitted_settings_honoured admitted
  obtain ⟨i, read, -, -, refreshed⟩ := intervals "30d" rfl (by decide)
  exact ⟨⟨i, read, refreshed (some "1d")⟩,
    (picked Sample.monthly _ rfl).2 ⟨_, rfl, by decide +kernel⟩⟩

end CredentialOperator
