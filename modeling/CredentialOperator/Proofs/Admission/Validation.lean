import CredentialOperator.Proofs.Admission.Rules
import CredentialOperator.Proofs.Selector.Faults

/-!
# What is told of a request

The rules for grants are compared one after the other, so of all that is wrong with a request only
one violation is told: that of the first rule which is broken (`GrantViolation.Before`).  Each part
of the comparison finds the first violation of some of the rules that follow each other
(`GrantSpec.Finds`), and parts are put together by trying the second where the first finds none.
So a request is accepted, with its warnings, exactly if it keeps every rule, and else refused for
the first violation there is (`grants_judged_by_rules`).
-/

namespace CredentialOperator

/-! ## Violations in order -/

namespace GrantViolation

/-- The place of the rule that is broken among the rules. -/
def stage : GrantViolation → Nat
  | .noProvider => 0
  | .noSecretName => 1
  | .noInjection => 2
  | .invalidEnvName .. => 3
  | .noMountPath | .relativeMountPath => 4
  | .invalidInterval _ => 5
  | .invalidSelector _ => 6

lemma stage_lt (v : GrantViolation) : v.stage < 7 := by
  cases v <;> simp [stage]

/-- A violation is told rather than another one. -/
inductive Before : GrantViolation → GrantViolation → Prop where
  /-- It breaks an earlier rule. -/
  | stage {v w : GrantViolation} (earlier : v.stage < w.stage) : Before v w
  /-- It is an earlier variable whose name is not allowed. -/
  | index {i j : Nat} {n m : String} (earlier : i < j) :
    Before (.invalidEnvName i n) (.invalidEnvName j m)

lemma Before.asymm {v w : GrantViolation} (h : v.Before w) (h' : w.Before v) : False := by
  cases h with
  | stage earlier =>
    cases h' with
    | stage earlier' => omega
    | index earlier' => exact absurd earlier (lt_irrefl 3)
  | index earlier =>
    cases h' with
    | stage earlier' => exact absurd earlier' (lt_irrefl 3)
    | index earlier' => omega

end GrantViolation

namespace GrantSpec

/-! ## What is wrong with a request -/

/-- A text has the form `[A-Z_][A-Z0-9_]*`. -/
def EnvName (name : String) : Prop :=
  ∃ first rest, name.toList = first :: rest ∧ ('A' ≤ first ∧ first ≤ 'Z' ∨ first = '_') ∧
    ∀ c ∈ rest, 'A' ≤ c ∧ c ≤ 'Z' ∨ c = '_' ∨ '0' ≤ c ∧ c ≤ '9'

/-- A violation of the rules by a request, whatever else is wrong with it. -/
inductive Breaks (s : GrantSpec) : GrantViolation → Prop where
  /-- No provider is named. -/
  | noProvider (unnamed : s.provider = "") : Breaks s .noProvider
  /-- No artifact is named. -/
  | noSecretName (unnamed : s.secretName = "") : Breaks s .noSecretName
  /-- Pods would be given nothing. -/
  | noInjection (no_env : s.injection.env = []) (no_volume : s.injection.volume = none) :
    Breaks s .noInjection
  /-- The name of a variable does not have the form. -/
  | invalidEnvName {index : Nat} {m : EnvMapping} (listed : s.injection.env[index]? = some m)
      (unfit : ¬ EnvName m.name) : Breaks s (.invalidEnvName index m.name)
  /-- The path of the directory is empty. -/
  | noMountPath {v : VolumeMapping} (volume : s.injection.volume = some v)
      (empty : v.mountPath = "") : Breaks s .noMountPath
  /-- The path of the directory does not begin at the root. -/
  | relativeMountPath {v : VolumeMapping} (volume : s.injection.volume = some v)
      (given : v.mountPath ≠ "") (relative : v.mountPath.toList.head? ≠ some '/') :
    Breaks s .relativeMountPath
  /-- A text is given that is no interval. -/
  | invalidInterval {t : String} {e : IntervalError} (given : s.rotationInterval? = some t)
      (refused : Interval.parse t = .error e) : Breaks s (.invalidInterval e)
  /-- An expression of the selector is not well formed; of several, the first one is told. -/
  | invalidSelector {w : Selector} {before after : List SelectorExpression}
      {e : SelectorExpression} {fault : SelectorError} (given : s.workloadSelector = some w)
      (split : w.matchExpressions = before ++ e :: after) (fine : ∀ x ∈ before, x.WellFormed)
      (faulty : e.Faulty fault) : Breaks s (.invalidSelector fault)

variable {s : GrantSpec} {a b c : Nat} {found next : Option GrantViolation}

/-! ## Names of variables -/

lemma beginsEnvName_iff {c : Char} :
    beginsEnvName c = true ↔ 'A' ≤ c ∧ c ≤ 'Z' ∨ c = '_' := by
  have upper : c.isUpper = true ↔ 'A' ≤ c ∧ c ≤ 'Z' := decide_eq_true_iff
  simp [beginsEnvName, upper]

lemma isEnvName_iff {name : String} : isEnvName name = true ↔ EnvName name := by
  unfold isEnvName EnvName
  cases name.toList with
  | nil => simp
  | cons first rest =>
    have goes_on {c : Char} : (beginsEnvName c || c.isDigit) = true ↔
        'A' ≤ c ∧ c ≤ 'Z' ∨ c = '_' ∨ '0' ≤ c ∧ c ≤ '9' := by
      rw [Bool.or_eq_true, beginsEnvName_iff, or_assoc]
      simp [Char.isDigit, Char.le_def]
    simp [beginsEnvName_iff, goes_on]

/-- A name that is found is one that is not allowed. -/
lemma unfit_of_badEnvName? {index : Nat} {env : List EnvMapping} {v : GrantViolation}
    (h : badEnvName? index env = some v) :
    ∃ i m, env[i]? = some m ∧ ¬ EnvName m.name ∧ v = .invalidEnvName (index + i) m.name := by
  induction env generalizing index with
  | nil => cases h
  | cons m rest ih =>
    simp only [badEnvName?] at h
    split_ifs at h with allowed
    · obtain ⟨i, m', listed, unfit, rfl⟩ := ih h
      exact ⟨i + 1, m', listed, unfit, by rw [Nat.add_right_comm, Nat.add_assoc]⟩
    · obtain rfl := Option.some.inj h
      exact ⟨0, m, rfl, mt isEnvName_iff.2 allowed, rfl⟩

/-- If there is a name that is not allowed, then this one is found or an earlier one. -/
lemma badEnvName?_of_unfit (index : Nat) {j : Nat} {env : List EnvMapping} {m : EnvMapping}
    (listed : env[j]? = some m) (unfit : ¬ EnvName m.name) :
    ∃ i n, badEnvName? index env = some (.invalidEnvName (index + i) n) ∧
      (i = j ∧ n = m.name ∨ i < j) := by
  induction env generalizing index j with
  | nil => cases listed
  | cons first rest ih =>
    by_cases allowed : isEnvName first.name = true
    · cases j with
      | zero =>
        obtain rfl := Option.some.inj listed
        exact absurd (isEnvName_iff.1 allowed) unfit
      | succ j =>
        obtain ⟨i, n, found, place⟩ := ih (index + 1) listed
        refine ⟨i + 1, n, ?_, by simpa using place⟩
        rw [badEnvName?, if_pos allowed, found, Nat.add_right_comm, Nat.add_assoc]
    · have found : badEnvName? index (first :: rest) = some (.invalidEnvName index first.name) := by
        rw [badEnvName?, if_neg allowed]
      cases j with
      | zero =>
        obtain rfl := Option.some.inj listed
        exact ⟨0, first.name, found, .inl ⟨rfl, rfl⟩⟩
      | succ j => exact ⟨0, first.name, found, .inr j.succ_pos⟩

/-! ## Parts of the comparison -/

/-- What is found is the first violation of the rules from the place `a` up to the place `b`. -/
structure Finds (s : GrantSpec) (a b : Nat) (found : Option GrantViolation) : Prop where
  /-- It is a violation of one of these rules or an earlier one. -/
  broken : ∀ v, found = some v → s.Breaks v ∧ v.stage < b
  /-- If one of these rules is broken, this is found or what comes before. -/
  first : ∀ w, s.Breaks w → a ≤ w.stage → w.stage < b →
    ∃ v, found = some v ∧ (v = w ∨ v.Before w)

/-- What the next rules find counts if the rules before them find nothing. -/
lemma Finds.or (h : s.Finds a b found) (h' : s.Finds b c next) (le : b ≤ c) :
    s.Finds a c (found.or next) := by
  constructor
  · intro v told
    rcases Option.or_eq_some_iff.1 told with own | ⟨-, own⟩
    · obtain ⟨breaks, earlier⟩ := h.broken v own
      exact ⟨breaks, earlier.trans_le le⟩
    · exact h'.broken v own
  · intro w breaks later earlier
    by_cases here : w.stage < b
    · obtain ⟨v, own, first⟩ := h.first w breaks later here
      exact ⟨v, by rw [own, Option.some_or], first⟩
    · cases own : found with
      | none => exact h'.first w breaks (not_lt.1 here) earlier
      | some v =>
        obtain ⟨-, before⟩ := h.broken v own
        exact ⟨v, rfl, .inr (.stage (before.trans_le (not_lt.1 here)))⟩

/-- A rule that can be broken in one way only. -/
lemma finds_of_iff (only : ∀ v, found = some v ↔ s.Breaks v ∧ v.stage = a) :
    s.Finds a (a + 1) found := by
  constructor
  · intro v told
    obtain ⟨breaks, place⟩ := (only v).1 told
    exact ⟨breaks, by omega⟩
  · intro w breaks later earlier
    exact ⟨w, (only w).2 ⟨breaks, by omega⟩, .inl rfl⟩

/-- A rule that is compared by a condition. -/
lemma finds_guard {broken : Prop} [Decidable broken] {v : GrantViolation} (place : v.stage = a)
    (breaks : broken → s.Breaks v) (only : ∀ w, s.Breaks w → w.stage = a → broken ∧ w = v) :
    s.Finds a (a + 1) (if broken then some v else none) := by
  refine finds_of_iff fun w => ⟨fun told => ?_, fun ⟨breaks', place'⟩ => ?_⟩
  · split_ifs at told with h
    obtain rfl := Option.some.inj told
    exact ⟨breaks h, place⟩
  · obtain ⟨h, rfl⟩ := only w breaks' place'
    rw [if_pos h]

/-! ## The rules one by one -/

lemma finds_provider : s.Finds 0 1 (if s.provider.isEmpty then some .noProvider else none) := by
  refine finds_guard rfl (fun unnamed => .noProvider (String.isEmpty_iff.1 unnamed)) ?_
  intro w breaks place
  cases breaks <;> cases place
  next unnamed => exact ⟨String.isEmpty_iff.2 unnamed, rfl⟩

lemma finds_secretName :
    s.Finds 1 2 (if s.secretName.isEmpty then some .noSecretName else none) := by
  refine finds_guard rfl (fun unnamed => .noSecretName (String.isEmpty_iff.1 unnamed)) ?_
  intro w breaks place
  cases breaks <;> cases place
  next unnamed => exact ⟨String.isEmpty_iff.2 unnamed, rfl⟩

lemma finds_injection : s.Finds 2 3
    (if s.injection.env.isEmpty && s.injection.volume.isNone then some .noInjection else none) := by
  have nothing : (s.injection.env.isEmpty && s.injection.volume.isNone) = true ↔
      s.injection.env = [] ∧ s.injection.volume = none := by simp
  refine finds_guard rfl (fun given => .noInjection (nothing.1 given).1 (nothing.1 given).2) ?_
  intro w breaks place
  cases breaks <;> cases place
  next no_env no_volume => exact ⟨nothing.2 ⟨no_env, no_volume⟩, rfl⟩

lemma finds_env : s.Finds 3 4 (badEnvName? 0 s.injection.env) := by
  constructor
  · intro v told
    obtain ⟨i, m, listed, unfit, rfl⟩ := unfit_of_badEnvName? told
    rw [Nat.zero_add]
    exact ⟨.invalidEnvName listed unfit, Nat.lt_succ_self 3⟩
  · intro w breaks later earlier
    have place : w.stage = 3 := by omega
    cases breaks <;> cases place
    next j m listed unfit =>
      obtain ⟨i, n, told, ⟨rfl, rfl⟩ | before⟩ := badEnvName?_of_unfit 0 listed unfit
      · exact ⟨_, told, .inl (by rw [Nat.zero_add])⟩
      · exact ⟨_, told, .inr (.index (by rwa [Nat.zero_add]))⟩

lemma finds_volume : s.Finds 4 5 (badVolume? s.injection.volume) := by
  refine finds_of_iff fun v => ⟨fun told => ?_, ?_⟩
  · cases volume : s.injection.volume with
    | none => rw [volume] at told; cases told
    | some mapping =>
      rw [volume, badVolume?] at told
      cases path : mapping.mountPath.toList with
      | nil =>
        simp only [path] at told
        obtain rfl := Option.some.inj told
        exact ⟨.noMountPath volume (String.toList_eq_nil_iff.1 path), rfl⟩
      | cons c rest =>
        simp only [path] at told
        split_ifs at told with root
        obtain rfl := Option.some.inj told
        refine ⟨.relativeMountPath volume ?_ ?_, rfl⟩
        · rintro empty
          rw [empty] at path
          cases path
        · simpa [path] using root
  · rintro ⟨breaks, place⟩
    cases breaks <;> cases place
    next mapping volume empty => rw [volume, badVolume?, empty]; rfl
    next mapping volume given relative =>
      rw [volume, badVolume?]
      cases path : mapping.mountPath.toList with
      | nil => exact absurd (String.toList_eq_nil_iff.1 path) given
      | cons c rest =>
        have not_root : c ≠ '/' := by simpa [path] using relative
        simp only [if_neg not_root]

lemma finds_interval : s.Finds 5 6 (badInterval? s.rotationInterval?) := by
  refine finds_of_iff fun v => ⟨fun told => ?_, ?_⟩
  · cases given : s.rotationInterval? with
    | none => rw [given] at told; cases told
    | some t =>
      cases read : Interval.parse t with
      | ok i => simp [given, badInterval?, read] at told
      | error e =>
        obtain rfl : .invalidInterval e = v := by simpa [given, badInterval?, read] using told
        exact ⟨.invalidInterval given read, rfl⟩
  · rintro ⟨breaks, place⟩
    cases breaks <;> cases place
    next given refused => simp [badInterval?, given, refused]

lemma finds_selector : s.Finds 6 7 (badSelector? s.workloadSelector) := by
  refine finds_of_iff fun v => ⟨fun told => ?_, ?_⟩
  · cases given : s.workloadSelector with
    | none => rw [given] at told; cases told
    | some w =>
      cases checked : w.check with
      | ok _ => simp [given, badSelector?, checked] at told
      | error fault =>
        obtain rfl : .invalidSelector fault = v := by
          simpa [given, badSelector?, checked] using told
        obtain ⟨before, e, after, split, fine, faulty⟩ := Selector.check_eq_error_iff.1 checked
        exact ⟨.invalidSelector given split fine faulty, rfl⟩
  · rintro ⟨breaks, place⟩
    cases breaks <;> cases place
    next given split fine faulty =>
      have checked := Selector.check_eq_error_iff.2 ⟨_, _, _, split, fine, faulty⟩
      simp [badSelector?, given, checked]

/-- The comparison as a whole finds the first violation there is. -/
lemma finds_violation? : s.Finds 0 7 s.violation? := by
  have rest : s.Finds 3 7 ((badEnvName? 0 s.injection.env)
      |>.or (badVolume? s.injection.volume)
      |>.or (badInterval? s.rotationInterval?)
      |>.or (badSelector? s.workloadSelector)) :=
    ((finds_env.or finds_volume (by decide)).or finds_interval (by decide)).or finds_selector
      (by decide)
  have parts := finds_provider.or
    (finds_secretName.or (finds_injection.or rest (by decide)) (by decide)) (by decide)
  convert parts using 1
  unfold violation?
  split_ifs <;> rfl

lemma violation?_eq_some_iff {v : GrantViolation} :
    s.violation? = some v ↔ s.Breaks v ∧ ∀ w, s.Breaks w → w = v ∨ v.Before w := by
  have told {w : GrantViolation} (breaks : s.Breaks w) :
      ∃ u, s.violation? = some u ∧ (u = w ∨ u.Before w) :=
    finds_violation?.first w breaks (Nat.zero_le _) w.stage_lt
  constructor
  · intro own
    refine ⟨(finds_violation?.broken v own).1, fun w breaks => ?_⟩
    obtain ⟨u, own', first⟩ := told breaks
    obtain rfl := Option.some.inj (own.symm.trans own')
    exact first.imp_left Eq.symm
  · rintro ⟨breaks, first⟩
    obtain ⟨u, own, rfl | before⟩ := told breaks
    · exact own
    · rcases first u (finds_violation?.broken u own).1 with rfl | before'
      · exact own
      · exact (before.asymm before').elim

/-! ## The answer -/

variable {resource : String}

lemma validate_eq_ok_iff {warnings : List String} :
    s.validate resource = .ok warnings ↔ s.KeepsRules ∧ warnings = s.warnings := by
  rw [← violation?_eq_none_iff, validate]
  cases s.violation? <;> simp [eq_comm]

lemma validate_eq_error_iff {failure : Failure} :
    s.validate resource = .error failure ↔
      ∃ v, s.violation? = some v ∧ failure = v.toFailure resource := by
  rw [validate]
  cases s.violation? <;> simp [eq_comm]

lemma rotationInterval?_eq_some_iff {t : String} :
    s.rotationInterval? = some t ↔ s.rotation.bind (·.interval) = some t ∧ t ≠ "" := by
  simp [rotationInterval?, Option.filter_eq_some_iff]

end GrantSpec

/-- Requests are judged by the rules.  A request is accepted exactly if it names a provider and an
artifact, gives pods a variable or a directory, gives no variable a name of another form and no
directory a path that does not begin at the root, if its interval of rotation is missing, empty or
read as one, and if every expression of its selector is well formed; there is a warning for each
variable that the platform sets itself, in their order.  Else it is refused for the first of the
rules that it breaks, by the first variable if it is the rule for their names, with the field that
breaks it. -/
theorem grants_judged_by_rules (s : GrantSpec) (resource : String) :
    (∀ warnings, s.validate resource = .ok warnings ↔
      (s.provider ≠ "" ∧ s.secretName ≠ "" ∧
        (s.injection.env ≠ [] ∨ s.injection.volume ≠ none) ∧
        (∀ m ∈ s.injection.env, GrantSpec.EnvName m.name) ∧
        (∀ v, s.injection.volume = some v →
          v.mountPath ≠ "" ∧ v.mountPath.toList.head? = some '/') ∧
        (∀ t, s.rotation.bind (·.interval) = some t → t = "" ∨ ∃ i, Interval.parse t = .ok i) ∧
        ∀ w, s.workloadSelector = some w → ∀ e ∈ w.matchExpressions, e.WellFormed) ∧
      warnings = (s.injection.env.filter fun m => m.name ∈
          ["KUBERNETES_SERVICE_HOST", "KUBERNETES_SERVICE_PORT", "HOSTNAME", "HOME"]).map
        fun m => s!"env var '{m.name}' overrides reserved Kubernetes variable") ∧
    ∀ failure, s.validate resource = .error failure ↔
      ∃ v, s.Breaks v ∧ (∀ w, s.Breaks w → w = v ∨ v.Before w) ∧
        failure = .validation resource v.message (some v.field) := by
  refine ⟨fun warnings => ?_, fun failure => ?_⟩
  · rw [GrantSpec.validate_eq_ok_iff]
    refine and_congr ⟨fun kept => ?_, ?_⟩ (by simp [GrantSpec.warnings, GrantSpec.reservedNames])
    · refine ⟨kept.provider, kept.secretName, kept.injection,
        fun m listed => GrantSpec.isEnvName_iff.1 (kept.envNames m listed), fun v volume => ?_,
        fun t given => ?_, fun w given => Selector.check_eq_ok_iff.1 (kept.selector w given)⟩
      · have root := kept.directory v volume
        refine ⟨?_, root⟩
        rintro empty
        rw [empty] at root
        cases root
      · by_cases empty : t = ""
        · exact .inl empty
        · exact .inr (kept.interval t (GrantSpec.rotationInterval?_eq_some_iff.2 ⟨given, empty⟩))
    · rintro ⟨provider, secretName, injection, names, directory, interval, selector⟩
      refine ⟨provider, secretName, injection,
        fun m listed => GrantSpec.isEnvName_iff.2 (names m listed),
        fun v volume => (directory v volume).2, fun t own => ?_,
        fun w given => Selector.check_eq_ok_iff.2 (selector w given)⟩
      obtain ⟨given, not_empty⟩ := GrantSpec.rotationInterval?_eq_some_iff.1 own
      exact (interval t given).resolve_left not_empty
  · rw [GrantSpec.validate_eq_error_iff]
    simp only [GrantSpec.violation?_eq_some_iff, and_assoc]
    rfl

/-- Of a name that is not allowed and a path that does not begin at the root, the name is told. -/
example : ({ provider := "openai-prod", secretName := "chatbot-openai-key", injection :=
      { env := [⟨"HOME", "apiKey"⟩, ⟨"9LIVES", "apiKey"⟩], volume := some ⟨"keys", true⟩ } } :
      GrantSpec).validate "team-a/chatbot" =
    .error (.validation "team-a/chatbot"
      "invalid env var name \"9LIVES\" (must match [A-Z_][A-Z0-9_]*)"
      (some "spec.injection.env[1].name")) := by
  decide +kernel

end CredentialOperator
