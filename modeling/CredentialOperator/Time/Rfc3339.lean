import CredentialOperator.Text.Blank
import CredentialOperator.Time.Timestamp

/-! # Instants as texts

Instants are written as RFC 3339 says, in UTC with a final `Z`, with as many digits of the
fraction as the kind of field asks for.  They are read from a wider class of texts: blanks
may stand before each number, the date and time may be separated by `T`, `t` or a space,
numbers may have fewer digits, years may carry a sign and then have any number of digits,
the offset may be `UTC` or use the minus sign of typesetting, and digits of the fraction
beyond the ninth are dropped.
-/

namespace CredentialOperator.Timestamp

/-! ## Writing -/

/-- A number in at least `width` digits. -/
def padded (width n : Nat) : String :=
  let digits := (toString n).toList
  String.ofList (List.replicate (width - digits.length) '0' ++ digits)

/-- A year: four digits, or a sign and at least four digits when it does not fit. -/
def renderYear (year : Int) : String :=
  if 0 ≤ year ∧ year ≤ 9999 then padded 4 year.toNat
  else (if year < 0 then "-" else "+") ++ padded 4 year.natAbs

/-- The fraction in `digits` digits, which may be none. -/
def renderFraction (digits nanos : Nat) : String :=
  if digits = 0 then "" else "." ++ padded digits (nanos / Nat.pow 10 (9 - digits))

/-- The text of an instant with the given number of digits in the fraction. -/
def renderWith (digits : Nat) (t : Timestamp) : String :=
  let date := Calendar.Date.ofDays (t.seconds / 86400)
  let inDay := (t.seconds % 86400).toNat
  let leap := if 1000000000 ≤ t.nanos then 1 else 0
  renderYear date.year ++ "-" ++ padded 2 date.month ++ "-" ++ padded 2 date.day ++ "T" ++
    padded 2 (inDay / 3600) ++ ":" ++ padded 2 (inDay / 60 % 60) ++ ":" ++
    padded 2 (inDay % 60 + leap) ++ renderFraction digits (t.nanos % 1000000000) ++ "Z"

/-- The fewest of 0, 3, 6 and 9 digits that show a fraction exactly. -/
def fractionDigits (nanos : Nat) : Nat :=
  if nanos % 1000000000 = 0 then 0
  else if nanos % 1000000 = 0 then 3
  else if nanos % 1000 = 0 then 6
  else 9

/-- The exact text of an instant. -/
def render (t : Timestamp) : String :=
  renderWith (fractionDigits t.nanos) t

/-! ## Reading -/

/-- Reads a number of one up to `max` digits, blanks before it allowed. -/
def readNumber (max : Nat) (cs : List Char) : Option (Nat × List Char) :=
  let cs := Text.trimLeft cs
  let digits := (cs.take max).takeWhile Char.isDigit
  if digits.isEmpty then none
  else some (digits.foldl (fun n c => n * 10 + (c.toNat - 48)) 0, cs.drop digits.length)

/-- Reads a year. -/
def readYear (cs : List Char) : Option (Int × List Char) :=
  match Text.trimLeft cs with
  | '-' :: rest =>
    if (rest.head?.map Char.isDigit).getD false then do
      let (n, rest) ← readNumber rest.length rest
      some (-n, rest)
    else none
  | '+' :: rest =>
    if (rest.head?.map Char.isDigit).getD false then do
      let (n, rest) ← readNumber rest.length rest
      some (n, rest)
    else none
  | rest => do
    let (n, rest) ← readNumber 4 rest
    some (n, rest)

/-- Reads a mark, blanks before it allowed. -/
def readMark (mark : Char) (cs : List Char) : Option (List Char) :=
  match Text.trimLeft cs with
  | c :: rest => if c = mark then some rest else none
  | [] => none

/-- Reads a fraction of a second, if one follows, in nanoseconds. -/
def readFraction (cs : List Char) : Option (Nat × List Char) :=
  match cs with
  | '.' :: rest =>
    let digits := (rest.take 9).takeWhile Char.isDigit
    if digits.isEmpty then none
    else
      let n := digits.foldl (fun n c => n * 10 + (c.toNat - 48)) 0
      some (n * Nat.pow 10 (9 - digits.length), rest.dropWhile Char.isDigit)
  | _ => some (0, cs)

/-- Reads the hours and minutes of an offset, as seconds. -/
def readOffsetTime (cs : List Char) : Option (Nat × List Char) :=
  match cs with
  | a :: b :: rest =>
    if a.isDigit && b.isDigit then
      match rest.dropWhile fun c => c == ':' || Text.isBlank c with
      | c :: d :: rest =>
        if '0' ≤ c && c ≤ '5' && d.isDigit then
          some (((a.toNat - 48) * 10 + (b.toNat - 48)) * 3600 +
            ((c.toNat - 48) * 10 + (d.toNat - 48)) * 60, rest)
        else none
      | _ => none
    else none
  | _ => none

/-- Reads an offset from UTC, as seconds. -/
def readOffset (cs : List Char) : Option (Int × List Char) :=
  match Text.trimLeft cs with
  | 'Z' :: rest | 'z' :: rest => some (0, rest)
  | '+' :: rest => do
    let (n, rest) ← readOffsetTime rest
    some (n, rest)
  | '-' :: rest | '\u2212' :: rest => do
    let (n, rest) ← readOffsetTime rest
    some (-n, rest)
  | u :: t :: c :: rest =>
    if u.toLower = 'u' ∧ t.toLower = 't' ∧ c.toLower = 'c' then some (0, rest) else none
  | _ => none

/-- The instant at which clocks with the given offset show a date and time, if both exist. -/
def ofParts? (date : Calendar.Date) (hour minute second nanos : Nat) (offset : Int) :
    Option Timestamp :=
  let leap := second = 60
  let inDay : Int := hour * 3600 + minute * 60 + (if leap then 59 else second)
  let seconds := date.toDays * 86400 + inDay - offset
  let total := nanos % 1000000000 + (if leap then 1000000000 else 0)
  if date.isValid ∧ Calendar.minYear ≤ date.year ∧ date.year ≤ Calendar.maxYear ∧
      hour ≤ 23 ∧ minute ≤ 59 ∧ second ≤ 60 ∧ offset.natAbs < 86400 ∧
      Calendar.minSecond ≤ seconds ∧ seconds ≤ Calendar.maxSecond then
    if h : total < 2000000000 then some ⟨seconds, total, h⟩ else none
  else none

/-- Reads an instant. -/
def ofChars? (cs : List Char) : Option Timestamp := do
  let (year, cs) ← readYear cs
  let cs ← readMark '-' cs
  let (month, cs) ← readNumber 2 cs
  let cs ← readMark '-' cs
  let (day, cs) ← readNumber 2 cs
  match cs with
  | [] => none
  | separator :: cs =>
    if separator = 'T' ∨ separator = 't' ∨ separator = ' ' then
      let (hour, cs) ← readNumber 2 cs
      let cs ← readMark ':' cs
      let (minute, cs) ← readNumber 2 cs
      let cs ← readMark ':' cs
      let (second, cs) ← readNumber 2 cs
      let (nanos, cs) ← readFraction cs
      let (offset, cs) ← readOffset cs
      if (Text.trimLeft cs).isEmpty then
        ofParts? ⟨year, month, day⟩ hour minute second nanos offset
      else none
    else none

/-- Reads an instant from a text. -/
def parse? (s : String) : Option Timestamp := ofChars? s.toList

end CredentialOperator.Timestamp
