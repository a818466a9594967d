import CredentialOperator.Time.Calendar

/-! # Timestamps

An instant is a second, counted from 1 January 1970 in UTC, and the nanoseconds into it.  A
leap second has no number of its own: it is told by nanoseconds of a thousand million or
more in the second before it.
-/

namespace CredentialOperator

/-- An instant. -/
structure Timestamp where
  /-- Seconds since the beginning of 1970. -/
  seconds : Int
  /-- Nanoseconds into the second; a leap second counts on from a thousand million. -/
  nanos : Nat
  /-- At most one leap second follows a second. -/
  nanos_lt : nanos < 2000000000
deriving DecidableEq, Repr

namespace Timestamp

/-- The beginning of 1970. -/
def epoch : Timestamp := ⟨0, 0, by decide⟩

instance : Inhabited Timestamp := ⟨epoch⟩

/-- The order of instants: by second, then by what lies beyond it. -/
protected def le (a b : Timestamp) : Prop :=
  a.seconds < b.seconds ∨ (a.seconds = b.seconds ∧ a.nanos ≤ b.nanos)

instance : LE Timestamp := ⟨Timestamp.le⟩

instance : LT Timestamp := ⟨fun a b => ¬ b ≤ a⟩

instance (a b : Timestamp) : Decidable (a ≤ b) :=
  inferInstanceAs (Decidable (_ ∨ _))

instance (a b : Timestamp) : Decidable (a < b) :=
  inferInstanceAs (Decidable (¬ _))

theorem le_iff {a b : Timestamp} :
    a ≤ b ↔ a.seconds < b.seconds ∨ (a.seconds = b.seconds ∧ a.nanos ≤ b.nanos) := Iff.rfl

theorem lt_iff_not_le {a b : Timestamp} : a < b ↔ ¬ b ≤ a := Iff.rfl

/-- The second of the day. -/
def secondOfDay (t : Timestamp) : Int := t.seconds % 86400

/-- The nanoseconds from one instant to another.  A leap second at the earlier time of day is
counted when the later time of day lies beyond it. -/
def since (a b : Timestamp) : Int :=
  let leap : Int :=
    if b.secondOfDay < a.secondOfDay ∧ 1000000000 ≤ b.nanos then 1
    else if a.secondOfDay < b.secondOfDay ∧ 1000000000 ≤ a.nanos then -1
    else 0
  (a.seconds - b.seconds + leap) * 1000000000 + ((a.nanos : Int) - b.nanos)

/-- The instant some whole seconds later, if it falls into the years that have dates.  From
within a leap second one moves on from the same fraction of the second before it, and back
from that of the second after it. -/
def addSeconds? (t : Timestamp) (n : Int) : Option Timestamp :=
  if n = 0 then some t
  else
    let start := if n < 0 ∧ 1000000000 ≤ t.nanos then t.seconds + 1 else t.seconds
    let seconds := start + n
    if Calendar.minSecond ≤ seconds ∧ seconds ≤ Calendar.maxSecond then
      some ⟨seconds, t.nanos % 1000000000,
        Nat.lt_trans (Nat.mod_lt _ (by decide)) (by decide)⟩
    else none

/-- The nanoseconds since the beginning of 1970. -/
def toNanos (t : Timestamp) : Int := t.seconds * 1000000000 + t.nanos

end Timestamp

end CredentialOperator
