import CredentialOperator.Text.Blank

/-! # Intervals

Rotation intervals are written as a whole number and one unit: days, hours or minutes.  An
interval is a positive whole number of seconds below `2 ^ 64`; the delays that the operator
waits for are finer, and are kept in nanoseconds.
-/

namespace CredentialOperator

/-- A span of time that an interval text stands for, in seconds. -/
structure Interval where
  /-- Its length in seconds. -/
  seconds : Nat
deriving DecidableEq, Repr

/-- A span of time to wait for. -/
structure Delay where
  /-- Its length in nanoseconds. -/
  nanos : Nat
deriving DecidableEq, Repr

namespace Delay

/-- A delay of whole seconds. -/
def ofSeconds (n : Nat) : Delay := ⟨n * 1000000000⟩

/-- The whole seconds of a delay. -/
def seconds (d : Delay) : Nat := d.nanos / 1000000000

/-- What a delay is longer than its whole seconds. -/
def subsecNanos (d : Delay) : Nat := d.nanos % 1000000000

/-- The shorter of two delays. -/
def min (a b : Delay) : Delay := ⟨Nat.min a.nanos b.nanos⟩

end Delay

/-- Why a text is no interval; each cause but the first carries the text without the blanks
around it. -/
inductive IntervalError where
  /-- Nothing but blanks. -/
  | empty
  /-- Digits only. -/
  | missingUnit (text : String)
  /-- No digit before the unit. -/
  | missingNumber (text : String)
  /-- A number of more than sixty-four bits. -/
  | numberTooLarge (text : String)
  /-- The number zero. -/
  | notPositive (text : String)
  /-- A unit that is neither days, hours nor minutes. -/
  | unsupportedUnit (text unit : String)
  /-- A length of more than sixty-four bits. -/
  | overflow (text : String)
deriving DecidableEq, Repr

/-- The wording of an error. -/
def IntervalError.message : IntervalError → String
  | .empty => "empty duration"
  | .missingUnit text => s!"duration '{text}' is missing a unit (d, h, m)"
  | .missingNumber text => s!"duration '{text}' has no numeric value"
  | .numberTooLarge text => s!"duration '{text}': number too large to fit in target type"
  | .notPositive text => s!"duration '{text}' must be positive"
  | .unsupportedUnit text unit =>
    s!"duration '{text}' has unsupported unit '{unit}' (expected d, h or m)"
  | .overflow text => s!"duration '{text}' overflows"

namespace Interval

/-- The units, with their lengths in seconds. -/
def unitSeconds? (unit : List Char) : Option Nat :=
  match unit with
  | ['d'] => some 86400
  | ['h'] => some 3600
  | ['m'] => some 60
  | _ => none

/-- The value of a run of digits. -/
def digitsValue (cs : List Char) : Nat :=
  cs.foldl (fun n c => n * 10 + (c.toNat - 48)) 0

/-- Reads an interval from a text without blanks around it. -/
def ofTrimmed (text : List Char) : Except IntervalError Interval :=
  let shown := String.ofList text
  let digits := text.takeWhile Char.isDigit
  let unit := text.dropWhile Char.isDigit
  let value := digitsValue digits
  if text.isEmpty then .error .empty
  else if unit.isEmpty then .error (.missingUnit shown)
  else if digits.isEmpty then .error (.missingNumber shown)
  else if 0x10000000000000000 ≤ value then .error (.numberTooLarge shown)
  else if value = 0 then .error (.notPositive shown)
  else
    match unitSeconds? unit with
    | none => .error (.unsupportedUnit shown (String.ofList unit))
    | some length =>
      if value * length < 0x10000000000000000 then .ok ⟨value * length⟩ else .error (.overflow shown)

/-- Reads an interval; blanks around it do not count. -/
def parse (s : String) : Except IntervalError Interval :=
  ofTrimmed (Text.trim s.toList)

/-- The interval of an optional text: a text that is missing or no interval has none. -/
def parse? (s : Option String) : Option Interval :=
  match s with
  | some s => (parse s).toOption
  | none => none

/-- The text that stands for an interval without a unit for days: whole hours as hours, all
else as minutes. -/
def hoursOrMinutes (i : Interval) : String :=
  if i.seconds % 3600 = 0 then s!"{i.seconds / 3600}h" else s!"{i.seconds / 60}m"

/-- An interval as a delay. -/
def toDelay (i : Interval) : Delay := Delay.ofSeconds i.seconds

end Interval

end CredentialOperator
