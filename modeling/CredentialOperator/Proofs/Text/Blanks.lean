import CredentialOperator.Text.Blank
import Mathlib.Data.List.TakeWhile

/-!
# Blanks around a text

Trimming is told here by what it leaves: a text without blanks at its ends, around which there was
nothing but blanks.  There is only one such text (`trim_eq_iff`).
-/

namespace CredentialOperator.Text

variable {cs t before after : List Char}

/-- What is left of a text when the blanks around it are taken away. -/
structure Stripped (cs t : List Char) : Prop where
  /-- There was nothing but blanks around it. -/
  around : ∃ before after, cs = before ++ t ++ after ∧ (∀ c ∈ before, isBlank c = true) ∧
    ∀ c ∈ after, isBlank c = true
  /-- It does not begin with a blank. -/
  front : ∀ c ∈ t.head?, isBlank c = false
  /-- It does not end with a blank. -/
  back : ∀ c ∈ t.getLast?, isBlank c = false

/-! ## One end -/

/-- What is left after the first characters of a kind does not begin with one of this kind. -/
lemma stops_dropWhile (p : Char → Bool) (cs : List Char) :
    ∀ c ∈ (cs.dropWhile p).head?, p c = false := by
  intro c first
  have stops := List.head?_dropWhile_not p cs
  rwa [show (cs.dropWhile p).head? = some c from first] at stops

lemma trimRight_eq_reverse : trimRight cs = (trimLeft cs.reverse).reverse := rfl

lemma trimLeft_append (blank : ∀ c ∈ before, isBlank c = true)
    (front : ∀ c ∈ t.head?, isBlank c = false) : trimLeft (before ++ t) = t := by
  rw [trimLeft, List.dropWhile_append_of_pos blank]
  cases t with
  | nil => rfl
  | cons c rest => exact List.dropWhile_cons_of_neg (by simp [front c rfl])

lemma trimRight_append (blank : ∀ c ∈ after, isBlank c = true)
    (back : ∀ c ∈ t.getLast?, isBlank c = false) : trimRight (t ++ after) = t := by
  rw [trimRight_eq_reverse, List.reverse_append,
    trimLeft_append (by simpa using blank) (by simpa using back), List.reverse_reverse]

lemma trimLeft_of_blank (blank : ∀ c ∈ cs, isBlank c = true) : trimLeft cs = [] :=
  List.dropWhile_eq_nil_iff.2 blank

/-- Only blanks are taken from the front, and all of them. -/
lemma exists_trimLeft (cs : List Char) :
    ∃ before, cs = before ++ trimLeft cs ∧ (∀ c ∈ before, isBlank c = true) ∧
      ∀ c ∈ (trimLeft cs).head?, isBlank c = false :=
  ⟨cs.takeWhile isBlank, List.takeWhile_append_dropWhile.symm,
    fun _ => List.mem_takeWhile_imp, stops_dropWhile isBlank cs⟩

/-- Only blanks are taken from the end, and all of them. -/
lemma exists_trimRight (cs : List Char) :
    ∃ after, cs = trimRight cs ++ after ∧ (∀ c ∈ after, isBlank c = true) ∧
      ∀ c ∈ (trimRight cs).getLast?, isBlank c = false := by
  obtain ⟨before, split, blank, front⟩ := exists_trimLeft cs.reverse
  refine ⟨before.reverse, ?_, by simpa using blank, ?_⟩
  · rw [trimRight_eq_reverse, ← List.reverse_append, ← split, List.reverse_reverse]
  · rw [trimRight_eq_reverse, List.getLast?_reverse]
    exact front

/-! ## Both ends -/

lemma stripped_trim (cs : List Char) : Stripped cs (trim cs) := by
  obtain ⟨before, split, blank_before, front⟩ := exists_trimLeft cs
  obtain ⟨after, split', blank_after, back⟩ := exists_trimRight (trimLeft cs)
  refine ⟨⟨before, after, ?_, blank_before, blank_after⟩, fun c first => front c ?_, back⟩
  · rw [List.append_assoc, trim, ← split', ← split]
  · rw [split', List.head?_append, show (trimRight (trimLeft cs)).head? = some c from first]
    rfl

lemma Stripped.trim_eq (h : Stripped cs t) : trim cs = t := by
  obtain ⟨before, after, rfl, blank_before, blank_after⟩ := h.around
  rw [trim, List.append_assoc]
  cases t with
  | nil =>
    -- the blanks behind the text are in front of nothing, too
    have blank : ∀ c ∈ before ++ after, isBlank c = true := fun c =>
      List.forall_mem_append.2 ⟨blank_before, blank_after⟩ c
    rw [List.nil_append, trimLeft_of_blank blank]
    rfl
  | cons first rest =>
    have front : ∀ c ∈ (first :: rest ++ after).head?, isBlank c = false := h.front
    rw [trimLeft_append blank_before front, trimRight_append blank_after h.back]

/-- Trimming leaves the only text that can be left. -/
lemma trim_eq_iff : trim cs = t ↔ Stripped cs t :=
  ⟨fun h => h ▸ stripped_trim cs, Stripped.trim_eq⟩

end CredentialOperator.Text
