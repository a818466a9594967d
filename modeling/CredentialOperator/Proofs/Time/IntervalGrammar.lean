import CredentialOperator.Failure.Basic
import CredentialOperator.Proofs.Text.Blanks
import CredentialOperator.Proofs.Time.Intervals

/-!
# The grammar of intervals

Every text is read in one of two ways.  It stands for an interval if there is nothing between the
blanks around it but a numeral and one of three units, with a number and a product that are not too
large.  Otherwise it is refused for one cause, the first one that applies (`Interval.Refused`), and
counts as an invalid setting, which nobody tries again.  So the texts that are read are exactly
those of the grammar (`intervals_by_grammar`).
-/

namespace CredentialOperator

namespace Interval

variable {t digits unit : List Char} {u : Char} {length : Nat} {i : Interval} {e : IntervalError}

/-! ## Numerals and units -/

lemma digitsValue_eq : digitsValue digits = Nat.ofDigitChars 10 digits 0 := foldl_digits digits

lemma unitSeconds?_eq_some_iff :
    unitSeconds? [u] = some length ↔ (u, length) ∈ [('d', 86400), ('h', 3600), ('m', 60)] := by
  constructor
  · intro measured
    rcases unit_cases measured with ⟨is_unit, rfl⟩ | ⟨is_unit, rfl⟩ | ⟨is_unit, rfl⟩
    all_goals
      obtain rfl := (List.cons.inj is_unit).1
      simp
  · intro listed
    simp only [List.mem_cons, Prod.mk.injEq, List.not_mem_nil, or_false] at listed
    rcases listed with ⟨rfl, rfl⟩ | ⟨rfl, rfl⟩ | ⟨rfl, rfl⟩ <;> rfl

/-- The texts of the grammar, told by the number that is written and the length of its unit. -/
lemma written_iff :
    Written t i ↔ ∃ digits u length, t = digits ++ [u] ∧ digits ≠ [] ∧
      (∀ c ∈ digits, c.isDigit = true) ∧
      (u, length) ∈ [('d', 86400), ('h', 3600), ('m', 60)] ∧
      0 < Nat.ofDigitChars 10 digits 0 ∧
      Nat.ofDigitChars 10 digits 0 < 0x10000000000000000 ∧
      Nat.ofDigitChars 10 digits 0 * length < 0x10000000000000000 ∧
      i.seconds = Nat.ofDigitChars 10 digits 0 * length := by
  simp only [← digitsValue_eq, ← unitSeconds?_eq_some_iff]
  constructor
  · intro written
    cases written with
    | @intro digits u length nonempty digital measured positive bounded =>
      have number_le : digitsValue digits ≤ digitsValue digits * length :=
        Nat.le_mul_of_pos_right _ (unit_dvd measured).1
      exact ⟨digits, u, length, rfl, nonempty, digital, measured, positive,
        number_le.trans_lt bounded, bounded, rfl⟩
  · rintro ⟨digits, u, length, rfl, nonempty, digital, measured, positive, -, bounded, seconds⟩
    have written := Written.intro nonempty digital measured positive bounded
    rwa [← seconds] at written

/-! ## Texts that are refused -/

/-- A text begins with digits and goes on with something else. -/
structure Numbered (digits unit : List Char) : Prop where
  /-- There are digits. -/
  nonempty : digits ≠ []
  /-- They are digits. -/
  digital : ∀ c ∈ digits, c.isDigit = true
  /-- Something follows. -/
  goes_on : unit ≠ []
  /-- What follows does not begin with a digit. -/
  stops : StopsDigits unit

lemma Numbered.taken (split : Numbered digits unit) :
    (digits ++ unit).takeWhile Char.isDigit = digits :=
  takeWhile_digits split.digital split.stops

lemma Numbered.left (split : Numbered digits unit) :
    (digits ++ unit).dropWhile Char.isDigit = unit :=
  dropWhile_digits split.digital split.stops

/-- Why a text without blanks around it is no interval.  Each cause rules out those before it. -/
inductive Refused : List Char → IntervalError → Prop where
  /-- There is nothing. -/
  | empty : Refused [] .empty
  /-- There are digits only. -/
  | missingUnit {digits : List Char} (nonempty : digits ≠ [])
      (digital : ∀ c ∈ digits, c.isDigit = true) :
    Refused digits (.missingUnit (String.ofList digits))
  /-- There are no digits in front. -/
  | missingNumber {unit : List Char} (nonempty : unit ≠ []) (stops : StopsDigits unit) :
    Refused unit (.missingNumber (String.ofList unit))
  /-- The number is too large. -/
  | numberTooLarge {digits unit : List Char} (split : Numbered digits unit)
      (large : 0x10000000000000000 ≤ digitsValue digits) :
    Refused (digits ++ unit) (.numberTooLarge (String.ofList (digits ++ unit)))
  /-- The number is zero. -/
  | notPositive {digits unit : List Char} (split : Numbered digits unit)
      (zero : digitsValue digits = 0) :
    Refused (digits ++ unit) (.notPositive (String.ofList (digits ++ unit)))
  /-- The number will do, but the unit is none. -/
  | unsupportedUnit {digits unit : List Char} (split : Numbered digits unit)
      (positive : digitsValue digits ≠ 0) (small : digitsValue digits < 0x10000000000000000)
      (unknown : unitSeconds? unit = none) :
    Refused (digits ++ unit)
      (.unsupportedUnit (String.ofList (digits ++ unit)) (String.ofList unit))
  /-- The number and the unit will do, but their product is too large. -/
  | overflow {digits unit : List Char} {length : Nat} (split : Numbered digits unit)
      (positive : digitsValue digits ≠ 0) (small : digitsValue digits < 0x10000000000000000)
      (measured : unitSeconds? unit = some length)
      (large : 0x10000000000000000 ≤ digitsValue digits * length) :
    Refused (digits ++ unit) (.overflow (String.ofList (digits ++ unit)))

lemma exists_split (t : List Char) :
    ∃ digits unit, t = digits ++ unit ∧ (∀ c ∈ digits, c.isDigit = true) ∧ StopsDigits unit :=
  ⟨t.takeWhile Char.isDigit, t.dropWhile Char.isDigit, List.takeWhile_append_dropWhile.symm,
    fun _ => List.mem_takeWhile_imp, Text.stops_dropWhile Char.isDigit t⟩

/-- What is not accepted is refused for a cause. -/
lemma refused_of_ofTrimmed (h : ofTrimmed t = .error e) : Refused t e := by
  obtain ⟨digits, unit, rfl, digital, stops⟩ := exists_split t
  simp only [ofTrimmed, takeWhile_digits digital stops, dropWhile_digits digital stops] at h
  split_ifs at h with no_text no_unit no_digit large zero
  · obtain rfl := Except.error.inj h
    rw [List.isEmpty_iff.1 no_text]
    exact .empty
  · obtain rfl := Except.error.inj h
    obtain rfl := List.isEmpty_iff.1 no_unit
    rw [List.append_nil] at no_text ⊢
    exact .missingUnit (mt List.isEmpty_iff.2 no_text) digital
  · obtain rfl := Except.error.inj h
    obtain rfl := List.isEmpty_iff.1 no_digit
    exact .missingNumber (mt List.isEmpty_iff.2 no_unit) stops
  all_goals
    have split : Numbered digits unit :=
      ⟨mt List.isEmpty_iff.2 no_digit, digital, mt List.isEmpty_iff.2 no_unit, stops⟩
  · obtain rfl := Except.error.inj h
    exact .numberTooLarge split large
  · obtain rfl := Except.error.inj h
    exact .notPositive split zero
  · cases measured : unitSeconds? unit with
    | none =>
      simp only [measured] at h
      obtain rfl := Except.error.inj h
      exact .unsupportedUnit split zero (not_le.1 large) measured
    | some length =>
      simp only [measured] at h
      split_ifs at h with bounded
      obtain rfl := Except.error.inj h
      exact .overflow split zero (not_le.1 large) measured (not_lt.1 bounded)

/-- What there is a cause to refuse is refused for it. -/
lemma ofTrimmed_of_refused (h : Refused t e) : ofTrimmed t = .error e := by
  cases h with
  | empty => rfl
  | missingUnit nonempty digital =>
    have stops : StopsDigits [] := by simp [StopsDigits]
    have all_taken := dropWhile_digits digital stops
    rw [List.append_nil] at all_taken
    simp [ofTrimmed, all_taken, nonempty]
  | missingNumber nonempty stops =>
    have none_taken : ([] ++ t).takeWhile Char.isDigit = [] :=
      takeWhile_digits (List.forall_mem_nil _) stops
    have all_left : ([] ++ t).dropWhile Char.isDigit = t :=
      dropWhile_digits (List.forall_mem_nil _) stops
    rw [List.nil_append] at none_taken all_left
    simp [ofTrimmed, none_taken, all_left, nonempty]
  | numberTooLarge split large =>
    simp [ofTrimmed, split.taken, split.left, split.nonempty, split.goes_on, large]
  | notPositive split zero =>
    simp [ofTrimmed, split.taken, split.left, split.nonempty, split.goes_on, zero]
  | unsupportedUnit split positive small unknown =>
    simp [ofTrimmed, split.taken, split.left, split.nonempty, split.goes_on, positive,
      not_le.2 small, unknown]
  | overflow split positive small measured large =>
    simp [ofTrimmed, split.taken, split.left, split.nonempty, split.goes_on, positive,
      not_le.2 small, measured, not_lt.2 large]

lemma parse_eq_error {s : String} : parse s = .error e ↔ Refused (Text.trim s.toList) e :=
  ⟨refused_of_ofTrimmed, ofTrimmed_of_refused⟩

end Interval

/-- Intervals are read by their grammar.  Between the blanks around a text there is one text; what
was given is an interval exactly if this is a numeral, of a positive number of at most sixty-four
bits, and a unit, and their product has at most sixty-four bits, too: this is the interval.  Every
other text is refused for its cause, counts as an invalid setting, which is not tried again, and as
no interval where one is optional. -/
theorem intervals_by_grammar (s : String) :
    ∃ t, (∀ t', Text.Stripped s.toList t' ↔ t' = t) ∧
      (∀ i, Interval.parse s = .ok i ↔ ∃ digits u length, t = digits ++ [u] ∧ digits ≠ [] ∧
        (∀ c ∈ digits, c.isDigit = true) ∧
        (u, length) ∈ [('d', 86400), ('h', 3600), ('m', 60)] ∧
        0 < Nat.ofDigitChars 10 digits 0 ∧
        Nat.ofDigitChars 10 digits 0 < 0x10000000000000000 ∧
        Nat.ofDigitChars 10 digits 0 * length < 0x10000000000000000 ∧
        i.seconds = Nat.ofDigitChars 10 digits 0 * length) ∧
      (∀ e, Interval.parse s = .error e ↔ Interval.Refused t e) ∧
      ((∃ i, Interval.parse s = .ok i ∧ Interval.parse? (some s) = some i) ∨
        ∃ e, Interval.parse s = .error e ∧ Interval.parse? (some s) = none ∧
          Failure.invalid e.message = .validation unknownContext e.message none ∧
          (Failure.invalid e.message).isRetryable = false) ∧
      Interval.parse? none = none := by
  refine ⟨Text.trim s.toList, fun t' => Text.trim_eq_iff.symm.trans eq_comm, fun i => ?_,
    fun e => Interval.parse_eq_error, ?_, rfl⟩
  · rw [Interval.parse_eq_ok, Interval.written_iff]
  · cases read : Interval.parse s with
    | ok i => exact .inl ⟨i, rfl, Interval.parse?_eq_some.2 ⟨s, rfl, read⟩⟩
    | error e => exact .inr ⟨e, rfl, by simp [Interval.parse?, read, Except.toOption], rfl, rfl⟩

/-- Leading zeros do not count, and neither do blanks that are not of ASCII. -/
example : Interval.parse "\u00a0 007d\t" = .ok ⟨604800⟩ := by decide +kernel

end CredentialOperator
