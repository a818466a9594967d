import CredentialOperator.Time.Timestamp
import Mathlib.Tactic.Common

/-!
# Instants as numbers

Outside leap seconds an instant is a number of nanoseconds: the order, differences and the
addition of seconds are those of numbers.  A clock that counts the seconds since 1970 shows no
other instants.
-/

namespace CredentialOperator

namespace Timestamp

variable {a b : Timestamp}

/-- The instant is not within a leap second. -/
def Ordinary (t : Timestamp) : Prop := t.nanos < 1000000000

instance (t : Timestamp) : Decidable t.Ordinary :=
  inferInstanceAs (Decidable (_ < _))

lemma le_iff_toNanos (ha : a.Ordinary) (hb : b.Ordinary) : a ≤ b ↔ a.toNanos ≤ b.toNanos := by
  unfold Ordinary at ha hb
  rw [le_iff, toNanos, toNanos]
  omega

lemma since_eq (ha : a.Ordinary) (hb : b.Ordinary) : a.since b = a.toNanos - b.toNanos := by
  unfold Ordinary at ha hb
  have a_plain : ¬ 1000000000 ≤ a.nanos := by omega
  have b_plain : ¬ 1000000000 ≤ b.nanos := by omega
  simp only [since, a_plain, b_plain, and_false, if_false, toNanos]
  omega

/-- Whole seconds are added to the number, if the sum still has a date. -/
lemma addSeconds?_eq {n : Nat} (ha : a.Ordinary) (hn : 0 < n)
    (low : Calendar.minSecond ≤ a.seconds) (high : a.seconds + n ≤ Calendar.maxSecond) :
    ∃ c, a.addSeconds? n = some c ∧ c.Ordinary ∧ c.seconds = a.seconds + n ∧
      c.toNanos = a.toNanos + n * 1000000000 := by
  unfold Ordinary at ha
  have positive : ¬ ((n : Int) = 0) := by omega
  have forward : ¬ ((n : Int) < 0 ∧ 1000000000 ≤ a.nanos) := by omega
  have dated : Calendar.minSecond ≤ a.seconds + n ∧ a.seconds + n ≤ Calendar.maxSecond := by
    omega
  refine ⟨⟨a.seconds + n, a.nanos, a.nanos_lt⟩, ?_, ha, rfl, ?_⟩
  · simp only [addSeconds?, positive, forward, dated, and_self, if_false, if_true,
      Nat.mod_eq_of_lt ha]
  · simp only [toNanos]
    omega

protected lemma le_refl (a : Timestamp) : a ≤ a := by
  rw [le_iff]
  omega

protected lemma le_trans {c : Timestamp} (hab : a ≤ b) (hbc : b ≤ c) : a ≤ c := by
  rw [le_iff] at hab hbc ⊢
  omega

/-- Adding seconds leads to a later instant, also from within a leap second. -/
lemma lt_of_addSeconds? {n : Nat} (hn : 0 < n) (h : a.addSeconds? n = some b) : a < b := by
  have positive : ¬ ((n : Int) = 0) := by omega
  have forward : ¬ ((n : Int) < 0 ∧ 1000000000 ≤ a.nanos) := by omega
  simp only [addSeconds?, positive, forward, if_false] at h
  split at h
  · obtain rfl := Option.some.inj h
    rw [lt_iff_not_le, le_iff]
    simp only
    omega
  · cases h

lemma seconds_of_addSeconds? {n : Nat} (h : a.addSeconds? n = some b) :
    b.seconds = a.seconds + n := by
  have forward : ¬ ((n : Int) < 0 ∧ 1000000000 ≤ a.nanos) := by omega
  simp only [addSeconds?, forward, if_false] at h
  split at h
  · obtain rfl := Option.some.inj h
    omega
  · split at h
    · obtain rfl := Option.some.inj h
      rfl
    · cases h

/-- Instants with one number are one. -/
lemma toNanos_injective (ha : a.Ordinary) (hb : b.Ordinary) (h : a.toNanos = b.toNanos) :
    a = b := by
  obtain ⟨s, n, hn⟩ := a
  obtain ⟨t, m, hm⟩ := b
  simp only [Ordinary, toNanos] at ha hb h
  obtain rfl : s = t := by omega
  obtain rfl : n = m := by omega
  rfl

end Timestamp

end CredentialOperator
