import CredentialOperator.Proofs.Text.Numerals
import CredentialOperator.Proofs.Time.Dates
import CredentialOperator.Time.Rfc3339

/-!
# Instants written and read

An instant that a calendar can show is read again from its text: the reader of each part stops
where the writer did.  Conversely every instant that was read is one that a calendar can show.
-/

namespace CredentialOperator.Timestamp

/-- A calendar can show the instant: it falls into the years that have dates, and a leap second
only stands at the end of a minute. -/
def OnCalendar (t : Timestamp) : Prop :=
  Calendar.minSecond ≤ t.seconds ∧ t.seconds ≤ Calendar.maxSecond ∧
    (1000000000 ≤ t.nanos → t.seconds % 60 = 59)

instance (t : Timestamp) : Decidable t.OnCalendar :=
  inferInstanceAs (Decidable (_ ∧ _))

/-! ## Numbers -/

/-- The digits of a number, with zeros in front of them. -/
def paddedDigits (width n : Nat) : List Char :=
  List.replicate (width - (Nat.toDigits 10 n).length) '0' ++ Nat.toDigits 10 n

lemma toList_padded (width n : Nat) : (padded width n).toList = paddedDigits width n := by
  have digits : (toString n).toList = Nat.toDigits 10 n := Nat.toList_repr
  simp only [padded, paddedDigits, digits, String.toList_ofList]

lemma isDigit_of_mem_paddedDigits {width n : Nat} {c : Char} (h : c ∈ paddedDigits width n) :
    c.isDigit = true := by
  rcases List.mem_append.1 h with h | h
  · rw [List.eq_of_mem_replicate h]
    decide
  · exact Nat.isDigit_of_mem_toDigits (by decide) (by decide) h

lemma length_paddedDigits {width n : Nat} (hw : 0 < width) (h : n < Nat.pow 10 width) :
    (paddedDigits width n).length = width := by
  have short : (Nat.toDigits 10 n).length ≤ width :=
    (Nat.length_toDigits_le_iff (by decide) hw).2 h
  simp only [paddedDigits, List.length_append, List.length_replicate]
  omega

lemma paddedDigits_ne_nil (width n : Nat) : paddedDigits width n ≠ [] := by
  simp [paddedDigits, Nat.toDigits_ne_nil]

/-- The value of a run of digits, as the readers compute it. -/
lemma value_paddedDigits (width n : Nat) :
    (paddedDigits width n).foldl (fun n c => n * 10 + (c.toNat - 48)) 0 = n := by
  rw [foldl_digits, paddedDigits, Nat.ofDigitChars_append, Nat.ofDigitChars_replicate_zero,
    Nat.mul_zero, Nat.ofDigitChars_ten_toDigits]

/-- The digits among the first characters are those that were written. -/
lemma taken_paddedDigits {width n max : Nat} {rest : List Char}
    (fits : (paddedDigits width n).length ≤ max)
    (ends : (paddedDigits width n).length = max ∨ StopsDigits rest) :
    ((paddedDigits width n ++ rest).take max).takeWhile Char.isDigit = paddedDigits width n := by
  have digits : ∀ c ∈ paddedDigits width n, c.isDigit = true :=
    fun c hc => isDigit_of_mem_paddedDigits hc
  rcases ends with ends | stops
  · rw [List.take_left' ends]
    have none_left : StopsDigits [] := by simp [StopsDigits]
    simpa using takeWhile_digits digits none_left
  · rw [List.take_append, List.take_of_length_le fits]
    refine takeWhile_digits digits ?_
    cases rest with
    | nil => simp [StopsDigits]
    | cons c cs =>
      cases max - (paddedDigits width n).length with
      | zero => simp [StopsDigits]
      | succ k => exact fun d hd => stops d hd

lemma readNumber_paddedDigits {width n max : Nat} {rest : List Char}
    (fits : (paddedDigits width n).length ≤ max)
    (ends : (paddedDigits width n).length = max ∨ StopsDigits rest) :
    readNumber max (paddedDigits width n ++ rest) = some (n, rest) := by
  simp only [readNumber,
    trimLeft_digits (fun c hc => isDigit_of_mem_paddedDigits hc) (paddedDigits_ne_nil width n),
    taken_paddedDigits fits ends, List.isEmpty_eq_false_iff.2 (paddedDigits_ne_nil width n),
    value_paddedDigits, List.drop_left, Bool.false_eq_true, if_false]

/-! ## Parts of a text -/

lemma readMark_cons {mark : Char} {rest : List Char} (h : Text.isBlank mark = false) :
    readMark mark (mark :: rest) = some rest := by
  simp [readMark, Text.trimLeft, h]

/-- A number of two digits is read whatever follows. -/
lemma readNumber_two {n : Nat} {rest : List Char} (h : n < 100) :
    readNumber 2 (paddedDigits 2 n ++ rest) = some (n, rest) := by
  have width : (paddedDigits 2 n).length = 2 := length_paddedDigits (by decide) h
  exact readNumber_paddedDigits (Nat.le_of_eq width) (.inl width)

/-- A year of four digits is read as a number is. -/
lemma readYear_digits {ds rest : List Char} (hd : ∀ c ∈ ds, c.isDigit = true) (hne : ds ≠ []) :
    readYear (ds ++ rest) =
      (readNumber 4 (ds ++ rest)).map fun r => ((r.1 : Int), r.2) := by
  obtain ⟨c, cs, rfl⟩ := List.exists_cons_of_ne_nil hne
  have digit : c.isDigit = true := hd c (by simp)
  unfold readYear
  rw [trimLeft_digits hd hne]
  -- a digit is no sign
  split
  next same =>
    obtain rfl : c = '-' := (List.cons.inj same).1
    cases digit
  next same =>
    obtain rfl : c = '+' := (List.cons.inj same).1
    cases digit
  next => cases readNumber 4 (c :: cs ++ rest) <;> rfl

/-- A year with a sign is read with all of its digits. -/
lemma readYear_signed {ds rest : List Char} {n : Nat}
    (head : (ds.head?.map Char.isDigit).getD false = true)
    (number : readNumber ds.length ds = some (n, rest)) :
    readYear ('-' :: ds) = some (-(n : Int), rest) ∧
      readYear ('+' :: ds) = some ((n : Int), rest) := by
  have minus : Text.trimLeft ('-' :: ds) = '-' :: ds := by
    simp [Text.trimLeft, show Text.isBlank '-' = false by decide]
  have plus : Text.trimLeft ('+' :: ds) = '+' :: ds := by
    simp [Text.trimLeft, show Text.isBlank '+' = false by decide]
  simp [readYear, minus, plus, head, number]

/-- A year is read up to the mark behind it. -/
lemma readYear_renderYear {year : Int} {rest : List Char} :
    readYear ((renderYear year).toList ++ '-' :: rest) = some (year, '-' :: rest) := by
  -- with a sign the reader takes as many digits as there are, which ends at the mark
  by_cases short : 0 ≤ year ∧ year ≤ 9999
  · have width : (paddedDigits 4 year.toNat).length = 4 :=
      length_paddedDigits (by decide) (show year.toNat < 10000 by omega)
    rw [renderYear, if_pos short, toList_padded,
      readYear_digits (fun c hc => isDigit_of_mem_paddedDigits hc) (paddedDigits_ne_nil _ _),
      readNumber_paddedDigits (Nat.le_of_eq width) (.inl width)]
    simp only [Option.map_some, Option.some.injEq, Prod.mk.injEq, and_true]
    omega
  · obtain ⟨c, cs, digits⟩ := List.exists_cons_of_ne_nil (paddedDigits_ne_nil 4 year.natAbs)
    have first : c ∈ paddedDigits 4 year.natAbs := by simp [digits]
    have digit : c.isDigit = true := isDigit_of_mem_paddedDigits first
    have stops : StopsDigits ('-' :: rest) := by
      rintro c ⟨⟩
      decide
    have number : readNumber (paddedDigits 4 year.natAbs ++ '-' :: rest).length
        (paddedDigits 4 year.natAbs ++ '-' :: rest) = some (year.natAbs, '-' :: rest) :=
      readNumber_paddedDigits (by simp) (.inr stops)
    have signed := readYear_signed (by simp [digits, digit]) number
    by_cases negative : year < 0
    · have text : (renderYear year).toList = '-' :: paddedDigits 4 year.natAbs := by
        simp [renderYear, short, negative, toList_padded]
      rw [text, List.cons_append, signed.1]
      simp only [Option.some.injEq, Prod.mk.injEq, and_true]
      omega
    · have text : (renderYear year).toList = '+' :: paddedDigits 4 year.natAbs := by
        simp [renderYear, short, negative, toList_padded]
      rw [text, List.cons_append, signed.2]
      simp only [Option.some.injEq, Prod.mk.injEq, and_true]
      omega

lemma pow_fractionDigits {nanos : Nat} (h : nanos < 1000000000) :
    fractionDigits nanos = 0 ∧ nanos = 0 ∨
      0 < fractionDigits nanos ∧ fractionDigits nanos ≤ 9 ∧
        nanos / Nat.pow 10 (9 - fractionDigits nanos) < Nat.pow 10 (fractionDigits nanos) ∧
        nanos / Nat.pow 10 (9 - fractionDigits nanos) * Nat.pow 10 (9 - fractionDigits nanos) =
          nanos := by
  unfold fractionDigits
  split
  · left
    omega
  split
  · right
    simp
    omega
  split
  · right
    simp
    omega
  · right
    simp
    omega

/-- The fraction is read up to the mark of the offset. -/
lemma readFraction_renderFraction {nanos : Nat} {rest : List Char} (h : nanos < 1000000000) :
    readFraction ((renderFraction (fractionDigits nanos) nanos).toList ++ 'Z' :: rest) =
      some (nanos, 'Z' :: rest) := by
  rcases pow_fractionDigits h with ⟨none_shown, rfl⟩ | ⟨shown, fits, bound, value⟩
  · rw [none_shown]
    rfl
  · have text : (renderFraction (fractionDigits nanos) nanos).toList =
        '.' :: paddedDigits (fractionDigits nanos)
          (nanos / Nat.pow 10 (9 - fractionDigits nanos)) := by
      have some_shown : fractionDigits nanos ≠ 0 := by omega
      simp [renderFraction, some_shown, toList_padded]
    have width := length_paddedDigits shown bound
    have stops : StopsDigits ('Z' :: rest) := by
      rintro c ⟨⟩
      decide
    have taken := taken_paddedDigits (Nat.le_trans (Nat.le_of_eq width) fits) (.inr stops)
    have digits : ∀ c ∈ paddedDigits (fractionDigits nanos)
        (nanos / Nat.pow 10 (9 - fractionDigits nanos)), c.isDigit = true :=
      fun c hc => isDigit_of_mem_paddedDigits hc
    have dropped := dropWhile_digits digits stops
    rw [text, List.cons_append]
    simp only [readFraction, taken, dropped, List.isEmpty_eq_false_iff.2 (paddedDigits_ne_nil _ _),
      value_paddedDigits, width, Bool.false_eq_true, if_false, value]

/-! ## Whole texts -/

/-- The second that is shown within a minute: the sixtieth for a leap second. -/
def shownSecond (t : Timestamp) : Nat :=
  (t.seconds % 86400).toNat % 60 + if 1000000000 ≤ t.nanos then 1 else 0

lemma fractionDigits_mod (nanos : Nat) :
    fractionDigits (nanos % 1000000000) = fractionDigits nanos := by
  have mods : nanos % 1000000000 % 1000000000 = nanos % 1000000000 ∧
      nanos % 1000000000 % 1000000 = nanos % 1000000 ∧
      nanos % 1000000000 % 1000 = nanos % 1000 := by omega
  simp only [fractionDigits, mods]

/-- The text of an instant is read as the parts that it shows. -/
lemma ofChars?_render (t : Timestamp) :
    ofChars? t.render.toList =
      ofParts? (Calendar.Date.ofDays (t.seconds / 86400)) ((t.seconds % 86400).toNat / 3600)
        ((t.seconds % 86400).toNat / 60 % 60) t.shownSecond (t.nanos % 1000000000) 0 := by
  generalize hdate : Calendar.Date.ofDays (t.seconds / 86400) = date
  have bounds : date.month ≤ 12 ∧ date.day ≤ 31 :=
    Calendar.Date.month_day_le (hdate ▸ Calendar.isValid_ofDays _)
  have month_bound : date.month < 100 := by omega
  have day_bound : date.day < 100 := by omega
  have hour_bound : (t.seconds % 86400).toNat / 3600 < 100 := by omega
  have minute_bound : (t.seconds % 86400).toNat / 60 % 60 < 100 := by omega
  have second_bound : t.shownSecond < 100 := by
    unfold shownSecond
    split <;> omega
  have fraction : t.nanos % 1000000000 < 1000000000 := Nat.mod_lt _ (by decide)
  -- the text, cut where the readers cut it
  have text : t.render.toList = (renderYear date.year).toList ++ '-' ::
      (paddedDigits 2 date.month ++ '-' :: (paddedDigits 2 date.day ++ 'T' ::
      (paddedDigits 2 ((t.seconds % 86400).toNat / 3600) ++ ':' ::
      (paddedDigits 2 ((t.seconds % 86400).toNat / 60 % 60) ++ ':' ::
      (paddedDigits 2 t.shownSecond ++
      ((renderFraction (fractionDigits (t.nanos % 1000000000)) (t.nanos % 1000000000)).toList ++
        ['Z'])))))) := by
    simp [render, renderWith, hdate, String.toList_append, toList_padded, shownSecond,
      fractionDigits_mod]
  have dash : Text.isBlank '-' = false := by decide
  have colon : Text.isBlank ':' = false := by decide
  rw [text]
  simp only [ofChars?, readYear_renderYear, Option.bind_eq_bind, Option.bind_some,
    readMark_cons dash, readMark_cons colon, readNumber_two month_bound, readNumber_two day_bound,
    readNumber_two hour_bound, readNumber_two minute_bound, readNumber_two second_bound,
    readFraction_renderFraction fraction]
  rfl

/-- The parts that an instant shows lead back to it. -/
lemma ofParts?_eq {date : Calendar.Date} {hour minute second nanos : Nat} {t : Timestamp}
    (valid : date.isValid = true) (early : Calendar.minYear ≤ date.year)
    (late : date.year ≤ Calendar.maxYear) (hour_le : hour ≤ 23) (minute_le : minute ≤ 59)
    (second_le : second ≤ 60)
    (seconds : date.toDays * 86400 +
      (hour * 3600 + minute * 60 + ((if second = 60 then 59 else second : Nat) : Int)) = t.seconds)
    (total : nanos % 1000000000 + (if second = 60 then 1000000000 else 0) = t.nanos)
    (low : Calendar.minSecond ≤ t.seconds) (high : t.seconds ≤ Calendar.maxSecond) :
    ofParts? date hour minute second nanos 0 = some t := by
  simp only [ofParts?, Int.sub_zero, seconds, total]
  rw [if_pos ⟨valid, early, late, hour_le, minute_le, second_le, by decide, low, high⟩,
    dif_pos t.nanos_lt]

/-- An instant that a calendar can show is read again from its text. -/
theorem parse?_render {t : Timestamp} (h : t.OnCalendar) : parse? t.render = some t := by
  obtain ⟨low, high, leap⟩ := h
  have first : Calendar.Date.toDays ⟨Calendar.minYear, 1, 1⟩ ≤ t.seconds / 86400 := by
    unfold Calendar.minSecond at low
    omega
  have last : t.seconds / 86400 < Calendar.Date.toDays ⟨Calendar.maxYear + 1, 1, 1⟩ := by
    unfold Calendar.maxSecond at high
    omega
  obtain ⟨early, late⟩ := Calendar.year_ofDays first last
  have nanos_lt := t.nanos_lt
  rw [parse?, ofChars?_render]
  -- a leap second is shown as the sixtieth, and read as what lies beyond the fifty-ninth
  by_cases beyond : 1000000000 ≤ t.nanos
  · have last_second := leap beyond
    have shown : t.shownSecond = 60 := by
      simp only [shownSecond, beyond, if_true]
      omega
    refine ofParts?_eq (Calendar.isValid_ofDays _) early late (by omega) (by omega) (by omega)
      ?_ ?_ low high
    · rw [Calendar.toDays_ofDays, shown, if_pos rfl]
      omega
    · rw [shown, if_pos rfl]
      omega
  · have shown : t.shownSecond = (t.seconds % 86400).toNat % 60 := by
      simp only [shownSecond, beyond, if_false, Nat.add_zero]
    have within : t.shownSecond ≠ 60 := by omega
    refine ofParts?_eq (Calendar.isValid_ofDays _) early late (by omega) (by omega) (by omega)
      ?_ ?_ low high
    · rw [Calendar.toDays_ofDays, if_neg within, shown]
      omega
    · rw [if_neg within]
      omega

/-! ## What was read -/

/-- The hours and minutes of an offset are whole minutes. -/
lemma readOffsetTime_minutes {cs rest : List Char} {n : Nat}
    (h : readOffsetTime cs = some (n, rest)) : n % 60 = 0 := by
  unfold readOffsetTime at h
  split at h
  next =>
    split at h
    next =>
      split at h
      next =>
        split at h
        next =>
          obtain ⟨rfl, -⟩ := Prod.mk.inj (Option.some.inj h)
          omega
        next => cases h
      next => cases h
    next => cases h
  next => cases h

/-- Offsets are whole minutes. -/
lemma readOffset_minutes {cs rest : List Char} {offset : Int}
    (h : readOffset cs = some (offset, rest)) : offset % 60 = 0 := by
  have forward : ∀ tail : List Char,
      (readOffsetTime tail).bind (fun r => some ((r.1 : Int), r.2)) = some (offset, rest) →
        offset % 60 = 0 := by
    intro tail read
    obtain ⟨⟨n, left⟩, minutes, same⟩ := Option.bind_eq_some_iff.1 read
    obtain ⟨rfl, -⟩ := Prod.mk.inj (Option.some.inj same)
    have whole := readOffsetTime_minutes minutes
    omega
  have backward : ∀ tail : List Char,
      (readOffsetTime tail).bind (fun r => some (-(r.1 : Int), r.2)) = some (offset, rest) →
        offset % 60 = 0 := by
    intro tail read
    obtain ⟨⟨n, left⟩, minutes, same⟩ := Option.bind_eq_some_iff.1 read
    obtain ⟨rfl, -⟩ := Prod.mk.inj (Option.some.inj same)
    have whole := readOffsetTime_minutes minutes
    omega
  unfold readOffset at h
  split at h
  next =>
    obtain ⟨rfl, -⟩ := Prod.mk.inj (Option.some.inj h)
    rfl
  next =>
    obtain ⟨rfl, -⟩ := Prod.mk.inj (Option.some.inj h)
    rfl
  next tail _ => exact forward tail h
  next tail _ => exact backward tail h
  next tail _ => exact backward tail h
  next =>
    split at h
    next =>
      obtain ⟨rfl, -⟩ := Prod.mk.inj (Option.some.inj h)
      rfl
    next => cases h
  next => cases h

/-- What the parts of an instant decide about it. -/
lemma ofParts?_some {date : Calendar.Date} {hour minute second nanos : Nat} {offset : Int}
    {t : Timestamp} (h : ofParts? date hour minute second nanos offset = some t) :
    Calendar.minSecond ≤ t.seconds ∧ t.seconds ≤ Calendar.maxSecond ∧
      t.seconds = date.toDays * 86400 +
        (hour * 3600 + minute * 60 + (if second = 60 then 59 else second : Nat)) - offset ∧
      t.nanos = nanos % 1000000000 + (if second = 60 then 1000000000 else 0) := by
  unfold ofParts? at h
  obtain ⟨bounds, h⟩ := Option.ite_none_right_eq_some.1 h
  obtain ⟨within, h⟩ := Option.dite_none_right_eq_some.1 h
  obtain rfl := Option.some.inj h
  exact ⟨bounds.2.2.2.2.2.2.2.1, bounds.2.2.2.2.2.2.2.2, rfl, rfl⟩

/-- A calendar can show every instant that parts lead to, if the offset is in whole minutes. -/
lemma onCalendar_of_ofParts? {date : Calendar.Date} {hour minute second nanos : Nat}
    {offset : Int} {t : Timestamp} (whole : offset % 60 = 0)
    (h : ofParts? date hour minute second nanos offset = some t) : t.OnCalendar := by
  obtain ⟨low, high, seconds, fraction⟩ := ofParts?_some h
  refine ⟨low, high, ?_⟩
  intro beyond
  -- the thousand million nanoseconds can only come from a sixtieth second
  have leap : second = 60 := by
    by_contra other
    rw [if_neg other] at fraction
    have bound := Nat.mod_lt nanos (show 1000000000 > 0 by decide)
    omega
  rw [if_pos leap] at seconds
  omega

/-- A calendar can show every instant that was read. -/
theorem onCalendar_of_parse? {s : String} {t : Timestamp} (h : parse? s = some t) :
    t.OnCalendar := by
  simp only [parse?, ofChars?, Option.bind_eq_bind, Option.bind_eq_some_iff] at h
  obtain ⟨_, -, _, -, _, -, _, -, _, -, h⟩ := h
  split at h
  next => cases h
  next =>
    split at h
    next =>
      simp only [Option.bind_eq_some_iff] at h
      obtain ⟨_, -, _, -, _, -, _, -, _, -, _, -, _, offset, h⟩ := h
      split at h
      next => exact onCalendar_of_ofParts? (readOffset_minutes offset) h
      next => cases h
    next => cases h

/-- Adding seconds leads to an instant that a calendar can show. -/
lemma onCalendar_of_addSeconds? {t u : Timestamp} {n : Int} (ht : t.OnCalendar)
    (h : t.addSeconds? n = some u) : u.OnCalendar := by
  by_cases zero : n = 0
  · rw [addSeconds?, if_pos zero] at h
    exact Option.some.inj h ▸ ht
  · simp only [addSeconds?, if_neg zero] at h
    -- where the counting starts makes no difference to the bounds
    generalize (if n < 0 ∧ 1000000000 ≤ t.nanos then t.seconds + 1 else t.seconds) = start at h
    split at h
    next bounds =>
      obtain rfl := Option.some.inj h
      refine ⟨bounds.1, bounds.2, ?_⟩
      intro beyond
      simp only at beyond
      omega
    next => cases h

end CredentialOperator.Timestamp
