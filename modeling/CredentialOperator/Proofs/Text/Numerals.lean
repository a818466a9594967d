import CredentialOperator.Text.Blank
import Mathlib.Tactic.Common
import Mathlib.Tactic.IntervalCases

/-!
# Decimal numerals

Readers of numbers go through the digits from the left, each digit multiplying what stands
before it by ten.  So they find the number whose digits these are.  They stop where the digits
do, and digits are no blanks, so that nothing of a number is lost when blanks are cut off.
-/

namespace CredentialOperator

/-- The value of a run of digits, as the readers compute it. -/
lemma foldl_digits (cs : List Char) :
    cs.foldl (fun n c => n * 10 + (c.toNat - 48)) 0 = Nat.ofDigitChars 10 cs 0 := by
  simp only [Nat.ofDigitChars_eq_foldl, Nat.mul_comm]
  rfl

/-- The digits of a number do not start with zero, except those of zero itself. -/
lemma head?_toDigits {n : Nat} (h : n ≠ 0) : (Nat.toDigits 10 n).head? ≠ some '0' := by
  induction n using Nat.strongRecOn with
  | ind n ih =>
    by_cases small : n < 10
    · rw [Nat.toDigits_of_lt_base small]
      interval_cases n <;> simp_all [Nat.digitChar]
    · have before : (Nat.toDigits 10 (n / 10)).head? ≠ some '0' := ih (n / 10) (by omega) (by omega)
      obtain ⟨c, rest, first⟩ := List.exists_cons_of_ne_nil (Nat.toDigits_ne_nil (n := n / 10))
      rw [Nat.toDigits_of_base_le (by decide) (not_lt.1 small)]
      rw [first] at before ⊢
      exact before

lemma not_isBlank_of_isDigit {c : Char} (h : c.isDigit = true) : Text.isBlank c = false := by
  have bounds : 48 ≤ c.toNat ∧ c.toNat ≤ 57 := by
    simp only [Char.isDigit, Bool.and_eq_true, decide_eq_true_eq, ge_iff_le,
      UInt32.le_iff_toNat_le] at h
    exact h
  unfold Text.isBlank
  simp only [Bool.or_eq_false_iff, Bool.and_eq_false_iff, decide_eq_false_iff_not,
    beq_eq_false_iff_ne]
  omega

/-- A text that does not go on with digits. -/
def StopsDigits (cs : List Char) : Prop := ∀ c ∈ cs.head?, c.isDigit = false

lemma takeWhile_digits {ds rest : List Char} (hd : ∀ c ∈ ds, c.isDigit = true)
    (stops : StopsDigits rest) : (ds ++ rest).takeWhile Char.isDigit = ds := by
  have none_left : rest.takeWhile Char.isDigit = [] := by
    cases rest with
    | nil => rfl
    | cons c cs => simp [stops c rfl]
  rw [List.takeWhile_append_of_pos hd, none_left, List.append_nil]

lemma dropWhile_digits {ds rest : List Char} (hd : ∀ c ∈ ds, c.isDigit = true)
    (stops : StopsDigits rest) : (ds ++ rest).dropWhile Char.isDigit = rest := by
  have all_left : rest.dropWhile Char.isDigit = rest := by
    cases rest with
    | nil => rfl
    | cons c cs => simp [stops c rfl]
  rw [List.dropWhile_append_of_pos hd, all_left]

/-- A text that begins with a digit has no blanks in front. -/
lemma trimLeft_digits {ds rest : List Char} (hd : ∀ c ∈ ds, c.isDigit = true) (hne : ds ≠ []) :
    Text.trimLeft (ds ++ rest) = ds ++ rest := by
  cases ds with
  | nil => exact absurd rfl hne
  | cons c cs => simp [Text.trimLeft, not_isBlank_of_isDigit (hd c (by simp))]

end CredentialOperator
