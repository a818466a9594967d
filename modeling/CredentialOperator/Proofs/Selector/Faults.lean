import CredentialOperator.Selector
import Mathlib.Tactic.Common

/-!
# Faults of selectors

An expression of a selector is well formed if it names a key and has values exactly if it compares
with some; else it has one fault.  The check of a selector stops at the first of its expressions
that is not well formed, and tells the fault of this one.
-/

namespace CredentialOperator

/-! ## Expressions -/

namespace SelectorOperator

lemma requiresValues_iff {o : SelectorOperator} :
    o.requiresValues = true ↔ o = .oneOf ∨ o = .noneOf := by
  cases o <;> decide

lemma not_requiresValues_iff {o : SelectorOperator} :
    o.requiresValues = false ↔ o = .present ∨ o = .absent := by
  cases o <;> decide

end SelectorOperator

namespace SelectorExpression

open SelectorOperator

variable {e : SelectorExpression} {fault : SelectorError}

/-- An expression names a key, and has values exactly if it compares with some. -/
structure WellFormed (e : SelectorExpression) : Prop where
  /-- A key is named. -/
  key : e.key ≠ ""
  /-- There are values exactly if there is something to compare with them. -/
  values : e.values ≠ [] ↔ e.operator = .oneOf ∨ e.operator = .noneOf

/-- What is wrong with an expression. -/
inductive Faulty (e : SelectorExpression) : SelectorError → Prop where
  /-- No key is named. -/
  | emptyKey (unnamed : e.key = "") : Faulty e .emptyKey
  /-- There is nothing to compare with. -/
  | missingValues (named : e.key ≠ "") (compares : e.operator = .oneOf ∨ e.operator = .noneOf)
      (empty : e.values = []) : Faulty e (.missingValues e.operator e.key)
  /-- There are values, but nothing to compare with them. -/
  | unexpectedValues (named : e.key ≠ "") (looks : e.operator = .present ∨ e.operator = .absent)
      (given : e.values ≠ []) : Faulty e (.unexpectedValues e.operator e.key)

lemma check_eq_ok_iff : e.check = .ok () ↔ e.WellFormed := by
  have well_formed_iff : e.WellFormed ↔ e.key ≠ "" ∧
      (e.values ≠ [] ↔ e.operator.requiresValues = true) := by
    rw [requiresValues_iff]
    exact ⟨fun h => ⟨h.key, h.values⟩, fun h => ⟨h.1, h.2⟩⟩
  rw [well_formed_iff]
  by_cases unnamed : e.key = ""
  · simp [check, unnamed]
  · cases compares : e.operator.requiresValues <;> cases given : e.values <;>
      simp [check, unnamed, compares, given]

lemma check_eq_error_iff : e.check = .error fault ↔ e.Faulty fault := by
  constructor
  · intro refused
    simp only [check, Bool.and_eq_true, Bool.not_eq_true', String.isEmpty_iff, List.isEmpty_iff,
      List.isEmpty_eq_false_iff] at refused
    split_ifs at refused with unnamed missing unexpected
    · obtain rfl := Except.error.inj refused
      exact .emptyKey unnamed
    · obtain rfl := Except.error.inj refused
      exact .missingValues unnamed (requiresValues_iff.1 missing.1) missing.2
    · obtain rfl := Except.error.inj refused
      exact .unexpectedValues unnamed (not_requiresValues_iff.1 unexpected.1) unexpected.2
  · intro faulty
    cases faulty with
    | emptyKey unnamed => simp [check, unnamed]
    | missingValues named compares empty =>
      simp [check, named, requiresValues_iff.2 compares, empty]
    | unexpectedValues named looks given =>
      simp [check, named, not_requiresValues_iff.2 looks, given]

/-- One thing is told about an expression. -/
lemma Faulty.unique {fault' : SelectorError} (h : e.Faulty fault) (h' : e.Faulty fault') :
    fault = fault' :=
  Except.error.inj ((check_eq_error_iff.2 h).symm.trans (check_eq_error_iff.2 h'))

lemma Faulty.not_wellFormed (h : e.Faulty fault) : ¬ e.WellFormed := by
  rw [← check_eq_ok_iff, check_eq_error_iff.2 h]
  nofun

end SelectorExpression

/-! ## Selectors -/

namespace Selector

variable {s : Selector} {fault : SelectorError}

lemma forM_check_cons {e : SelectorExpression} {rest : List SelectorExpression} :
    (e :: rest).forM (·.check) = e.check >>= fun _ => rest.forM (·.check) := rfl

lemma forM_check_eq_ok_iff {expressions : List SelectorExpression} :
    expressions.forM (·.check) = .ok () ↔ ∀ e ∈ expressions, e.WellFormed := by
  induction expressions with
  | nil => simp [pure, Except.pure]
  | cons e rest ih =>
    rw [forM_check_cons, List.forall_mem_cons, ← ih, ← SelectorExpression.check_eq_ok_iff]
    cases e.check <;> simp [bind, Except.bind]

/-- The check stops at the first expression that is not well formed. -/
lemma forM_check_eq_error_iff {expressions : List SelectorExpression} :
    expressions.forM (·.check) = .error fault ↔ ∃ before e after,
      expressions = before ++ e :: after ∧ (∀ x ∈ before, x.WellFormed) ∧ e.Faulty fault := by
  induction expressions with
  | nil => simp [pure, Except.pure]
  | cons first rest ih =>
    rw [forM_check_cons]
    cases checked : first.check with
    | error own =>
      have faulty := SelectorExpression.check_eq_error_iff.1 checked
      simp only [bind, Except.bind, Except.error.injEq]
      constructor
      · rintro rfl
        exact ⟨[], first, rest, rfl, nofun, faulty⟩
      · rintro ⟨before, e, after, split, fine, faulty'⟩
        cases before with
        | nil =>
          obtain ⟨rfl, -⟩ := List.cons.inj split
          exact faulty.unique faulty'
        | cons x before =>
          obtain ⟨rfl, -⟩ := List.cons.inj split
          exact absurd (fine first List.mem_cons_self) faulty.not_wellFormed
    | ok _ =>
      have well_formed := SelectorExpression.check_eq_ok_iff.1 checked
      simp only [bind, Except.bind]
      rw [ih]
      constructor
      · rintro ⟨before, e, after, rfl, fine, faulty⟩
        exact ⟨first :: before, e, after, rfl, List.forall_mem_cons.2 ⟨well_formed, fine⟩, faulty⟩
      · rintro ⟨before, e, after, split, fine, faulty⟩
        cases before with
        | nil =>
          obtain ⟨rfl, -⟩ := List.cons.inj split
          exact absurd well_formed faulty.not_wellFormed
        | cons x before =>
          obtain ⟨rfl, rfl⟩ := List.cons.inj split
          exact ⟨before, e, after, rfl, (List.forall_mem_cons.1 fine).2, faulty⟩

lemma check_eq_ok_iff : s.check = .ok () ↔ ∀ e ∈ s.matchExpressions, e.WellFormed :=
  forM_check_eq_ok_iff

/-- A selector is refused for what is wrong with the first of its expressions that is not well
formed. -/
lemma check_eq_error_iff :
    s.check = .error fault ↔ ∃ before e after, s.matchExpressions = before ++ e :: after ∧
      (∀ x ∈ before, x.WellFormed) ∧ e.Faulty fault :=
  forM_check_eq_error_iff

end Selector

end CredentialOperator
