import CredentialOperator.Admission.PodInjection
import CredentialOperator.Proofs.Selector.Faults

/-!
# The terms of selectors

A selector is told by its terms, the exact pairs and the expressions that it holds.  It picks the
labels that satisfy all of them (`Selector.Picks`), so that neither their order nor their number
matters, a pair may as well be written as an expression, and the terms of two selectors can be
joined.

Acceptance does not ask whether the terms are well formed: an expression that compares with no
values at all holds for everything.  Those who use a selector ask, and let an ill-formed one pick
nothing (`selectors_pick_by_terms`).
-/

namespace CredentialOperator

namespace SelectorExpression

variable {e : SelectorExpression} {labels : StringMap} {key value : String}

/-- The labels satisfy an expression. -/
def Holds (e : SelectorExpression) (labels : StringMap) : Prop :=
  match e.operator with
  | .oneOf => ∃ v, labels[e.key]? = some v ∧ v ∈ e.values
  | .noneOf => e.key ∉ labels ∨ ∃ v, labels[e.key]? = some v ∧ v ∉ e.values
  | .present => e.key ∈ labels
  | .absent => e.key ∉ labels

lemma accepts_iff : e.accepts labels = true ↔ e.Holds labels := by
  simp only [accepts, Holds, SelectorOperator.accepts, Std.ExtTreeMap.mem_iff_isSome_getElem?]
  cases e.operator <;> cases labels[e.key]? <;> simp

/-- The expression that asks for an exact pair. -/
def ofPair (key value : String) : SelectorExpression := ⟨key, .oneOf, [value]⟩

lemma holds_ofPair : (ofPair key value).Holds labels ↔ labels[key]? = some value := by
  simp [Holds, ofPair]

end SelectorExpression

namespace Selector

open SelectorExpression (ofPair holds_ofPair)

variable {s t u : Selector} {labels : StringMap} {key value : String}

/-! ## What is picked -/

/-- A selector asks for an exact pair. -/
def Asks (s : Selector) (key value : String) : Prop :=
  ∃ pairs, s.matchLabels = some pairs ∧ pairs[key]? = some value

/-- The labels satisfy all terms of a selector. -/
structure Picks (s : Selector) (labels : StringMap) : Prop where
  /-- Every pair that is asked for is among the labels. -/
  pairs : ∀ key value, s.Asks key value → labels[key]? = some value
  /-- Every expression holds. -/
  expressions : ∀ e ∈ s.matchExpressions, e.Holds labels

lemma mem_pairs_iff : (key, value) ∈ s.pairs ↔ s.Asks key value := by
  unfold pairs Asks
  cases s.matchLabels with
  | none => simp
  | some asked => simp [Std.ExtTreeMap.mem_toList_iff_getElem?_eq_some]

lemma accepts_iff : s.accepts labels = true ↔ s.Picks labels := by
  simp only [accepts, Bool.and_eq_true, List.all_eq_true, Prod.forall, mem_pairs_iff, beq_iff_eq,
    SelectorExpression.accepts_iff]
  exact ⟨fun h => ⟨h.1, h.2⟩, fun h => ⟨h.pairs, h.expressions⟩⟩

/-! ## Other ways to write a selector -/

/-- The terms of a selector are those of two others taken together. -/
structure Comprises (u s t : Selector) : Prop where
  pairs : ∀ key value, u.Asks key value ↔ s.Asks key value ∨ t.Asks key value
  expressions : ∀ e, e ∈ u.matchExpressions ↔ e ∈ s.matchExpressions ∨ e ∈ t.matchExpressions

/-- Terms taken together pick what each of the selectors picks. -/
lemma Comprises.picks_iff (h : u.Comprises s t) :
    u.Picks labels ↔ s.Picks labels ∧ t.Picks labels := by
  constructor
  · intro picked
    exact ⟨⟨fun k v asked => picked.pairs k v ((h.pairs k v).2 (.inl asked)),
        fun e held => picked.expressions e ((h.expressions e).2 (.inl held))⟩,
      ⟨fun k v asked => picked.pairs k v ((h.pairs k v).2 (.inr asked)),
        fun e held => picked.expressions e ((h.expressions e).2 (.inr held))⟩⟩
  · rintro ⟨left, right⟩
    refine ⟨fun k v asked => ?_, fun e held => ?_⟩
    · exact ((h.pairs k v).1 asked).elim (left.pairs k v) (right.pairs k v)
    · exact ((h.expressions e).1 held).elim (left.expressions e) (right.expressions e)

/-- Only the terms of a selector matter, not their order or how often they are given. -/
lemma accepts_of_same_expressions {expressions : List SelectorExpression}
    (same : ∀ e, e ∈ expressions ↔ e ∈ s.matchExpressions) :
    ({ s with matchExpressions := expressions } : Selector).accepts labels = s.accepts labels := by
  have twice : ({ s with matchExpressions := expressions } : Selector).Comprises s s :=
    ⟨fun _ _ => (or_self_iff ..).symm, fun e => (same e).trans (or_self_iff ..).symm⟩
  rw [Bool.eq_iff_iff, accepts_iff, accepts_iff, twice.picks_iff, and_self_iff]

/-- A selector with one of its pairs written as an expression. -/
def spellOut (s : Selector) (key value : String) : Selector where
  matchLabels := s.matchLabels.map (·.erase key)
  matchExpressions := ofPair key value :: s.matchExpressions

lemma asks_spellOut {k v : String} :
    (s.spellOut key value).Asks k v ↔ s.Asks k v ∧ k ≠ key := by
  unfold Asks spellOut
  cases s.matchLabels with
  | none => simp
  | some asked =>
    by_cases same : key = k
    · simp [same]
    · simp [Std.ExtTreeMap.getElem?_erase, same, Ne.symm same]

/-- A pair may as well be written as an expression. -/
lemma accepts_spellOut (asked : s.Asks key value) :
    (s.spellOut key value).accepts labels = s.accepts labels := by
  rw [Bool.eq_iff_iff, accepts_iff, accepts_iff]
  constructor
  · rintro ⟨pairs, expressions⟩
    obtain ⟨spelt, expressions⟩ := List.forall_mem_cons.1 expressions
    refine ⟨fun k v asked' => ?_, expressions⟩
    by_cases same : k = key
    · subst same
      -- one value is asked for under a key, and this is the one that was written out
      obtain ⟨p, given, found⟩ := asked
      obtain ⟨p', given', found'⟩ := asked'
      obtain rfl := Option.some.inj (given.symm.trans given')
      rw [← found', found]
      exact holds_ofPair.1 spelt
    · exact pairs k v (asks_spellOut.2 ⟨asked', same⟩)
  · rintro ⟨pairs, expressions⟩
    have spelt : (ofPair key value).Holds labels := holds_ofPair.2 (pairs key value asked)
    exact ⟨fun k v asked' => pairs k v (asks_spellOut.1 asked').1,
      List.forall_mem_cons.2 ⟨spelt, expressions⟩⟩

/-- The pairs of two selectors have no key in common. -/
def Apart (s t : Selector) : Prop := ∀ key v w, s.Asks key v → ¬ t.Asks key w

/-- The terms of two selectors in one. -/
def join (s t : Selector) : Selector where
  matchLabels := some (s.matchLabels.getD ∅ ∪ t.matchLabels.getD ∅)
  matchExpressions := s.matchExpressions ++ t.matchExpressions

lemma asks_iff_getD : s.Asks key value ↔ (s.matchLabels.getD ∅)[key]? = some value := by
  unfold Asks
  cases s.matchLabels <;> simp

/-- No pair is lost when selectors are joined whose pairs have no key in common. -/
lemma Apart.comprises_join (apart : s.Apart t) : (s.join t).Comprises s t := by
  refine ⟨fun k v => ?_, fun e => List.mem_append⟩
  have joined : (s.join t).Asks k v ↔
      ((t.matchLabels.getD ∅)[k]?.or (s.matchLabels.getD ∅)[k]?) = some v := by
    simp [Asks, join, Std.ExtTreeMap.getElem?_union]
  rw [joined, Option.or_eq_some_iff, ← asks_iff_getD, ← asks_iff_getD, or_comm]
  refine or_congr_left (and_iff_right_of_imp fun asked => ?_)
  rw [Option.eq_none_iff_forall_ne_some]
  exact fun w found => apart k v w asked (asks_iff_getD.2 found)

/-! ## Selectors in use -/

/-- Something is wrong with a selector exactly if one of its expressions is faulty. -/
lemma exists_check_eq_error_iff :
    (∃ fault, s.check = .error fault) ↔
      ∃ e ∈ s.matchExpressions, ∃ fault, e.Faulty fault := by
  constructor
  · rintro ⟨fault, refused⟩
    obtain ⟨before, e, after, split, -, faulty⟩ := check_eq_error_iff.1 refused
    exact ⟨e, split ▸ List.mem_append_right _ List.mem_cons_self, fault, faulty⟩
  · rintro ⟨e, held, fault, faulty⟩
    cases checked : s.check with
    | error fault => exact ⟨fault, rfl⟩
    | ok _ => exact absurd (check_eq_ok_iff.1 checked e held) faulty.not_wellFormed

/-- An expression that compares with no values is faulty, and holds for all labels. -/
lemma exists_faulty_accepts (labels : StringMap) :
    ∃ (s : Selector) (fault : SelectorError), s.check = .error fault ∧ s.accepts labels = true := by
  let careless : SelectorExpression := ⟨"env", .noneOf, []⟩
  have holds : careless.Holds labels := by
    cases found : labels["env"]? with
    | none => exact .inl (by simp [careless, Std.ExtTreeMap.mem_iff_isSome_getElem?, found])
    | some v => exact .inr ⟨v, found, List.not_mem_nil⟩
  refine ⟨{ matchExpressions := [careless] }, .missingValues .noneOf "env", by decide, ?_⟩
  exact accepts_iff.2 ⟨by simp [Asks], List.forall_mem_singleton.2 holds⟩

end Selector

section

variable {s : Selector} {labels : StringMap} {fault : SelectorError}

lemma ProviderSpec.servesNamespace_eq {p : ProviderSpec} (given : p.namespaceSelector = some s) :
    p.servesNamespace labels = (s.isValid && s.accepts labels) := by
  simp only [servesNamespace, given]

lemma Grant.selects_eq {g : Grant} (given : g.spec.workloadSelector = some s) :
    g.selects labels = (s.isValid && s.accepts labels) := by
  simp only [selects, given]

lemma Selector.isValid_of_ok (fine : s.check = .ok ()) : s.isValid = true := by
  rw [isValid, fine]
  rfl

lemma Selector.isValid_of_error (refused : s.check = .error fault) : s.isValid = false := by
  rw [isValid, refused]
  rfl

end

/-- What selectors pick is told by their terms, and ill-formed ones pick nothing where they are
used:

* labels are accepted exactly if they satisfy every term;
* the expressions may be put into another order or repeated, and a pair may be written as an
  expression with one value, without changing what is accepted;
* the terms of two selectors whose pairs have no key in common can be joined in one, which accepts
  what both of them accept;
* the check objects exactly to selectors with a faulty expression, and then no namespace is served
  and no pod is meant, whatever the labels, while a selector to which it does not object decides as
  it accepts.  Acceptance alone does not notice: any labels are accepted by some faulty selector. -/
theorem selectors_pick_by_terms :
    (∀ (s : Selector) labels, s.accepts labels = true ↔ s.Picks labels) ∧
    (∀ (s : Selector) expressions, (∀ e, e ∈ expressions ↔ e ∈ s.matchExpressions) → ∀ labels,
      ({ s with matchExpressions := expressions } : Selector).accepts labels =
        s.accepts labels) ∧
    (∀ (s : Selector) key value, s.Asks key value → ∀ labels,
      (s.spellOut key value).accepts labels = s.accepts labels) ∧
    (∀ s t : Selector, s.Apart t → (s.join t).Comprises s t ∧ ∀ labels,
      ((s.join t).accepts labels = true ↔ s.accepts labels = true ∧ t.accepts labels = true)) ∧
    (∀ s : Selector, (∃ fault, s.check = .error fault) ↔
      ∃ e ∈ s.matchExpressions, ∃ fault, e.Faulty fault) ∧
    (∀ (s : Selector) fault, s.check = .error fault → ∀ labels,
      (∀ p : ProviderSpec, p.namespaceSelector = some s → p.servesNamespace labels = false) ∧
        ∀ g : Grant, g.spec.workloadSelector = some s → g.selects labels = false) ∧
    (∀ s : Selector, s.check = .ok () → ∀ labels,
      (∀ p : ProviderSpec, p.namespaceSelector = some s →
        p.servesNamespace labels = s.accepts labels) ∧
        ∀ g : Grant, g.spec.workloadSelector = some s → g.selects labels = s.accepts labels) ∧
    ∀ labels, ∃ (s : Selector) (fault : SelectorError),
      s.check = .error fault ∧ s.accepts labels = true := by
  refine ⟨fun s labels => Selector.accepts_iff,
    fun s expressions same labels => Selector.accepts_of_same_expressions same,
    fun s key value asked labels => Selector.accepts_spellOut asked, fun s t apart => ?_,
    fun s => Selector.exists_check_eq_error_iff, fun s fault refused labels => ?_,
    fun s fine labels => ?_, Selector.exists_faulty_accepts⟩
  · refine ⟨apart.comprises_join, fun labels => ?_⟩
    rw [Selector.accepts_iff, Selector.accepts_iff, Selector.accepts_iff,
      apart.comprises_join.picks_iff]
  · have invalid := Selector.isValid_of_error refused
    exact ⟨fun p given => by rw [ProviderSpec.servesNamespace_eq given, invalid, Bool.false_and],
      fun g given => by rw [Grant.selects_eq given, invalid, Bool.false_and]⟩
  · have valid := Selector.isValid_of_ok fine
    exact ⟨fun p given => by rw [ProviderSpec.servesNamespace_eq given, valid, Bool.true_and],
      fun g given => by rw [Grant.selects_eq given, valid, Bool.true_and]⟩

namespace Sample

/-- A selector of the environments of a team that are not in quarantine. -/
def teamSelector : Selector where
  matchLabels := some (Std.ExtTreeMap.ofList [("team", "ml")])
  matchExpressions := [⟨"env", .oneOf, ["prod", "staging"]⟩, ⟨"quarantine", .absent, []⟩]

/-- The same selector with its expressions in another order, and one of them repeated. -/
def teamExpressions : List SelectorExpression :=
  [⟨"quarantine", .absent, []⟩, ⟨"env", .oneOf, ["prod", "staging"]⟩, ⟨"quarantine", .absent, []⟩]

/-- A selector with a value that nothing is compared with. -/
def careless : Selector where
  matchExpressions := [⟨"env", .present, ["prod"]⟩]

/-- The labels of an environment of the team. -/
def prodLabels : StringMap := Std.ExtTreeMap.ofList [("team", "ml"), ("env", "prod")]

/-- A provider that serves the namespaces that a selector picks. -/
def choosy (s : Selector) : ProviderSpec where
  provider := .openAi
  auth := { type := .apiKey }
  namespaceSelector := some s

/-- A grant that is meant for the pods that a selector picks. -/
def meant (s : Selector) : Grant where
  metadata := {}
  spec := { provider := "openai", secretName := "chat-key", workloadSelector := some s }

end Sample

/-- The team is picked however its selector is written, but not where another tier is asked for as
well; the careless selector accepts it, and picks nothing. -/
theorem sample_selectors_pick_by_terms :
    ({ Sample.teamSelector with matchExpressions := Sample.teamExpressions } : Selector).accepts
      Sample.prodLabels = true ∧
    (Sample.teamSelector.spellOut "team" "ml").accepts Sample.prodLabels = true ∧
    (Sample.teamSelector.join (.ofPairs [("tier", "gold")])).accepts Sample.prodLabels = false ∧
    Sample.careless.accepts Sample.prodLabels = true ∧
    (Sample.choosy Sample.careless).servesNamespace Sample.prodLabels = false ∧
    (Sample.meant Sample.careless).selects Sample.prodLabels = false ∧
    (Sample.choosy Sample.teamSelector).servesNamespace Sample.prodLabels = true ∧
    (Sample.meant Sample.teamSelector).selects Sample.prodLabels = true := by
  obtain ⟨-, reordered, spelt, joined, -, refused, fine, -⟩ := selectors_pick_by_terms
  have picked : Sample.teamSelector.accepts Sample.prodLabels = true := by decide +kernel
  have other : (Selector.ofPairs [("tier", "gold")]).accepts Sample.prodLabels = false := by
    decide +kernel
  have same : ∀ e, e ∈ Sample.teamExpressions ↔ e ∈ Sample.teamSelector.matchExpressions := by
    simp [Sample.teamExpressions, Sample.teamSelector, or_comm]
  have asked : Sample.teamSelector.Asks "team" "ml" := ⟨_, rfl, by decide +kernel⟩
  have apart : Sample.teamSelector.Apart (.ofPairs [("tier", "gold")]) := by
    intro key v w asked asked'
    obtain ⟨rfl, -⟩ : "team" = key ∧ "ml" = v := by
      simpa [Selector.Asks, Sample.teamSelector, Std.ExtTreeMap.getElem?_insert] using asked
    simp [Selector.Asks, Selector.ofPairs] at asked'
  obtain ⟨none_served, none_meant⟩ :=
    refused Sample.careless (.unexpectedValues .present "env") (by decide) Sample.prodLabels
  obtain ⟨served, meant⟩ := fine Sample.teamSelector (by decide) Sample.prodLabels
  refine ⟨(reordered _ _ same _).trans picked, (spelt _ _ _ asked _).trans picked, ?_,
    by decide +kernel, none_served _ rfl, none_meant _ rfl, (served _ rfl).trans picked,
    (meant _ rfl).trans picked⟩
  rw [Bool.eq_false_iff, ne_eq, (joined _ _ apart).2, other]
  simp

end CredentialOperator
