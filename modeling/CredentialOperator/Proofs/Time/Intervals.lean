import CredentialOperator.Proofs.Text.Numerals
import CredentialOperator.Time.Interval

/-!
# Intervals written and read

A text without blanks around it stands for an interval if it is a positive number followed by a
unit and the product of the two is not too large (`Interval.Written`); the reader accepts nothing
else.  An interval that was read can be written in hours or minutes, and what is written then is
read as the same interval.
-/

namespace CredentialOperator.Interval

/-- The characters are a number and a unit, and stand for an interval. -/
inductive Written : List Char → Interval → Prop where
  | intro {digits : List Char} {unit : Char} {length : Nat} (nonempty : digits ≠ [])
      (digital : ∀ c ∈ digits, c.isDigit = true) (measured : unitSeconds? [unit] = some length)
      (positive : 0 < digitsValue digits)
      (bounded : digitsValue digits * length < 0x10000000000000000) :
      Written (digits ++ [unit]) ⟨digitsValue digits * length⟩

variable {cs : List Char} {unit : Char} {length : Nat} {s : String} {i : Interval}

/-! ## Units -/

/-- There are three units. -/
lemma unit_cases {unit : List Char} (h : unitSeconds? unit = some length) :
    unit = ['d'] ∧ length = 86400 ∨ unit = ['h'] ∧ length = 3600 ∨ unit = ['m'] ∧ length = 60 := by
  unfold unitSeconds? at h
  split at h
  · exact .inl ⟨rfl, (Option.some.inj h).symm⟩
  · exact .inr (.inl ⟨rfl, (Option.some.inj h).symm⟩)
  · exact .inr (.inr ⟨rfl, (Option.some.inj h).symm⟩)
  · cases h

lemma unit_stops (h : unitSeconds? [unit] = some length) : StopsDigits [unit] := by
  rcases unit_cases h with ⟨is_unit, -⟩ | ⟨is_unit, -⟩ | ⟨is_unit, -⟩
  all_goals
    rw [is_unit]
    simp [StopsDigits]

lemma unit_not_blank (h : unitSeconds? [unit] = some length) : Text.isBlank unit = false := by
  rcases unit_cases h with ⟨is_unit, -⟩ | ⟨is_unit, -⟩ | ⟨is_unit, -⟩
  all_goals
    obtain rfl := (List.cons.inj is_unit).1
    decide

lemma unit_dvd {unit : List Char} (h : unitSeconds? unit = some length) :
    0 < length ∧ 60 ∣ length := by
  rcases unit_cases h with ⟨-, rfl⟩ | ⟨-, rfl⟩ | ⟨-, rfl⟩ <;> decide

/-! ## Reading -/

/-- What is accepted is a number with a unit. -/
lemma written_of_ofTrimmed (h : ofTrimmed cs = .ok i) : Written cs i := by
  simp only [ofTrimmed] at h
  split_ifs at h with no_text no_unit no_digit large zero
  split at h
  · cases h
  next length measured =>
    split_ifs at h with bounded
    obtain rfl := Except.ok.inj h
    obtain ⟨u, unit⟩ : ∃ u, cs.dropWhile Char.isDigit = [u] := by
      rcases unit_cases measured with ⟨unit, -⟩ | ⟨unit, -⟩ | ⟨unit, -⟩ <;> exact ⟨_, unit⟩
    have parts : cs.takeWhile Char.isDigit ++ [u] = cs := by
      rw [← unit, List.takeWhile_append_dropWhile]
    have written := Written.intro (mt List.isEmpty_iff.2 no_digit)
      (List.all_eq_true.1 List.all_takeWhile) (unit ▸ measured) (Nat.pos_of_ne_zero zero) bounded
    rwa [parts] at written

/-- A number with a unit is accepted. -/
lemma ofTrimmed_of_written (h : Written cs i) : ofTrimmed cs = .ok i := by
  cases h with
  | @intro digits unit length nonempty digital measured positive bounded =>
    have stops := unit_stops measured
    have length_pos := (unit_dvd measured).1
    have small : ¬ 0x10000000000000000 ≤ digitsValue digits := by
      have : digitsValue digits * 1 ≤ digitsValue digits * length :=
        Nat.mul_le_mul_left _ length_pos
      omega
    simp only [ofTrimmed, takeWhile_digits digital stops, dropWhile_digits digital stops]
    simp [nonempty, small, positive.ne', measured, bounded]

lemma ofTrimmed_eq_ok : ofTrimmed cs = .ok i ↔ Written cs i :=
  ⟨written_of_ofTrimmed, ofTrimmed_of_written⟩

/-- A text is read as an interval exactly if what stands between its blanks is one. -/
lemma parse_eq_ok : parse s = .ok i ↔ Written (Text.trim s.toList) i := ofTrimmed_eq_ok

/-- The length of an interval that was written is a whole number of minutes. -/
lemma Written.seconds (h : Written cs i) :
    0 < i.seconds ∧ 60 ∣ i.seconds ∧ i.seconds < 0x10000000000000000 := by
  cases h with
  | intro nonempty digital measured positive bounded =>
    obtain ⟨length_pos, minutes⟩ := unit_dvd measured
    exact ⟨Nat.mul_pos positive length_pos, Dvd.dvd.mul_left minutes _, bounded⟩

/-- The interval of an optional text is that of the text. -/
lemma parse?_eq_some {text : Option String} :
    parse? text = some i ↔ ∃ t, text = some t ∧ parse t = .ok i := by
  cases text with
  | none => simp [parse?]
  | some t => cases read : parse t <;> simp [parse?, read, Except.toOption]

/-- An interval that was read is not empty. -/
lemma parse?_pos {text : Option String} (h : parse? text = some i) : 0 < i.seconds := by
  obtain ⟨t, -, read⟩ := parse?_eq_some.1 h
  exact (parse_eq_ok.1 read).seconds.1

/-! ## Writing -/

/-- Blanks are not cut off from a number with a unit. -/
lemma trim_written (h : Written cs i) : Text.trim cs = cs := by
  cases h with
  | intro nonempty digital measured positive bounded =>
    rw [Text.trim, trimLeft_digits digital nonempty]
    simp [Text.trimRight, unit_not_blank measured]

lemma digitsValue_toDigits (n : Nat) : digitsValue (Nat.toDigits 10 n) = n := by
  rw [digitsValue, foldl_digits, Nat.ofDigitChars_ten_toDigits]

/-- A number of units is written as an interval. -/
lemma written_toDigits (measured : unitSeconds? [unit] = some length) (whole : length ∣ i.seconds)
    (positive : 0 < i.seconds) (bounded : i.seconds < 0x10000000000000000) :
    Written (Nat.toDigits 10 (i.seconds / length) ++ [unit]) i := by
  have digital : ∀ c ∈ Nat.toDigits 10 (i.seconds / length), c.isDigit = true :=
    fun c => Nat.isDigit_of_mem_toDigits (by decide) (by decide)
  have product : i.seconds / length * length = i.seconds := Nat.div_mul_cancel whole
  have written := Written.intro Nat.toDigits_ne_nil digital measured
  rw [digitsValue_toDigits, product] at written
  exact written (Nat.div_pos (Nat.le_of_dvd positive whole) (unit_dvd measured).1) bounded

/-- Every number of minutes can be written in hours or minutes. -/
lemma written_hoursOrMinutes (positive : 0 < i.seconds) (minutes : 60 ∣ i.seconds)
    (bounded : i.seconds < 0x10000000000000000) : Written i.hoursOrMinutes.toList i := by
  have numeral (n : Nat) (unit : String) :
      (toString n ++ toString unit).toList = Nat.toDigits 10 n ++ unit.toList := by
    rw [String.toList_append]
    exact congrArg (· ++ unit.toList) Nat.toList_repr
  unfold hoursOrMinutes
  split
  next hours =>
    rw [numeral]
    exact written_toDigits rfl (Nat.dvd_of_mod_eq_zero hours) positive bounded
  next =>
    rw [numeral]
    exact written_toDigits rfl minutes positive bounded

/-- What is written in hours or minutes is the interval that was read. -/
lemma parse_hoursOrMinutes (h : parse s = .ok i) : parse i.hoursOrMinutes = .ok i := by
  obtain ⟨positive, minutes, bounded⟩ := (parse_eq_ok.1 h).seconds
  have written := written_hoursOrMinutes positive minutes bounded
  rwa [parse_eq_ok, trim_written written]

end CredentialOperator.Interval
