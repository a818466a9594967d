import CredentialOperator.Json.Basic

/-! # Reading and writing JSON numbers

An integer literal is kept as an integer when it fits into sixty-four bits; every other
literal is a real, kept as its decimal expansion without trailing zeros.  A real beyond the
largest double is no number, and one too small to be told from zero is zero.
-/

namespace CredentialOperator

namespace Number

/-- The digits of a literal's run, as a number. -/
def ofDigits (cs : List Char) : Nat :=
  cs.foldl (fun n c => n * 10 + (c.toNat - 48)) 0

/-- The smallest number that rounds beyond the largest double. -/
def overflowBound : Nat := Nat.pow 2 1024 - Nat.pow 2 970

/-- Whether `digits * 10 ^ exponent` rounds beyond the largest double; `size` is the number of
digits. -/
def overflows (digits size : Nat) (exponent : Int) : Bool :=
  if digits == 0 then false
  else if 310 < (size : Int) + exponent then true
  else if 0 ≤ exponent then overflowBound ≤ digits * Nat.pow 10 exponent.toNat
  else overflowBound * Nat.pow 10 (-exponent).toNat ≤ digits

/-- The real with the given digit characters and exponent. -/
def ofDecimal? (negative : Bool) (cs : List Char) (exponent : Int) : Option Number :=
  let significant := (cs.dropWhile (· == '0')).reverse.dropWhile (· == '0') |>.reverse
  let shift := exponent + (cs.reverse.takeWhile (· == '0')).length
  let digits := ofDigits significant
  if digits == 0 || (significant.length : Int) + shift < -400 then some (.real negative 0 0)
  else if overflows digits significant.length shift then none
  else some (.real negative digits shift)

/-- The number with the given digit characters and no fraction or exponent. -/
def ofWhole? (negative : Bool) (cs : List Char) : Option Number :=
  let n := ofDigits cs
  if negative then
    if 0 < n && n ≤ 0x8000000000000000 then some (.integer (-n)) else ofDecimal? true cs 0
  else if n < 0x10000000000000000 then some (.integer n)
  else ofDecimal? false cs 0

/-- Reads an exponent, if one follows. -/
def readExponent (cs : List Char) : Option (Option Int × List Char) :=
  let finish (negative : Bool) (rest : List Char) :=
    let digits := rest.takeWhile Char.isDigit
    if digits.isEmpty then none
    else
      let n : Int := ofDigits digits
      some (some (if negative then -n else n), rest.dropWhile Char.isDigit)
  match cs with
  | 'e' :: '-' :: rest | 'E' :: '-' :: rest => finish true rest
  | 'e' :: '+' :: rest | 'E' :: '+' :: rest => finish false rest
  | 'e' :: rest | 'E' :: rest => finish false rest
  | _ => some (none, cs)

/-- Reads a fraction, if one follows. -/
def readFraction (cs : List Char) : Option (Option (List Char) × List Char) :=
  match cs with
  | '.' :: rest =>
    let digits := rest.takeWhile Char.isDigit
    if digits.isEmpty then none else some (some digits, rest.dropWhile Char.isDigit)
  | _ => some (none, cs)

/-- Reads a number without its sign. -/
def readUnsigned (negative : Bool) (cs : List Char) : Option (Number × List Char) := do
  let whole := cs.takeWhile Char.isDigit
  if whole.isEmpty || (whole.head? == some '0' && 1 < whole.length) then none
  else
    let (fraction, cs) ← readFraction (cs.dropWhile Char.isDigit)
    let (exponent, cs) ← readExponent cs
    let value ←
      if fraction.isNone && exponent.isNone then ofWhole? negative whole
      else
        let digits := fraction.getD []
        ofDecimal? negative (whole ++ digits) (exponent.getD 0 - digits.length)
    some (value, cs)

/-- Reads a number at the front of a text. -/
def read (cs : List Char) : Option (Number × List Char) :=
  match cs with
  | '-' :: rest => readUnsigned true rest
  | _ => readUnsigned false cs

/-- The text of the real `digits * 10 ^ exponent`: with a point when the point falls among
the first sixteen digits or at most four zeros before them, else with an exponent. -/
def renderDecimal (digits : Nat) (exponent : Int) : String :=
  if digits == 0 then "0.0"
  else
    let cs := (toString digits).toList
    let size : Int := cs.length
    let point := size + exponent
    if 0 ≤ exponent && point ≤ 16 then
      String.ofList (cs ++ List.replicate exponent.toNat '0') ++ ".0"
    else if 0 < point && point ≤ 16 then
      String.ofList (cs.take point.toNat) ++ "." ++ String.ofList (cs.drop point.toNat)
    else if -5 < point && point ≤ 0 then
      "0." ++ String.ofList (List.replicate (-point).toNat '0' ++ cs)
    else
      let tail := cs.drop 1
      let fraction := if tail.isEmpty then "" else "." ++ String.ofList tail
      String.ofList (cs.take 1) ++ fraction ++ "e" ++ toString (point - 1)

/-- The text of a number. -/
def render : Number → String
  | .integer n => toString n
  | .real negative digits exponent =>
    (if negative then "-" else "") ++ renderDecimal digits exponent

end Number

end CredentialOperator
