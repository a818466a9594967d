/-! # Base64

Standard base64 with padding.  Reading is strict: the length is a multiple of four, padding
stands only at the end, and bits that encode nothing are zero, so a text is read exactly
when it is the written form of the bytes it stands for.
-/

namespace CredentialOperator.Text

/-- The symbol of a six-bit number. -/
def base64Symbol (n : Nat) : Char :=
  if n < 26 then Char.ofNat (65 + n)
  else if n < 52 then Char.ofNat (97 + (n - 26))
  else if n < 62 then Char.ofNat (48 + (n - 52))
  else if n == 62 then '+' else '/'

/-- The six-bit number of a symbol. -/
def base64Value? (c : Char) : Option Nat :=
  let n := c.toNat
  if 65 ≤ n && n ≤ 90 then some (n - 65)
  else if 97 ≤ n && n ≤ 122 then some (n - 97 + 26)
  else if 48 ≤ n && n ≤ 57 then some (n - 48 + 52)
  else if c == '+' then some 62
  else if c == '/' then some 63
  else none

/-- The written form of a list of bytes. -/
def base64Encode : List UInt8 → List Char
  | [] => []
  | [a] =>
    [base64Symbol (a.toNat / 4), base64Symbol (a.toNat % 4 * 16), '=', '=']
  | [a, b] =>
    [base64Symbol (a.toNat / 4), base64Symbol (a.toNat % 4 * 16 + b.toNat / 16),
      base64Symbol (b.toNat % 16 * 4), '=']
  | a :: b :: c :: rest =>
    base64Symbol (a.toNat / 4) :: base64Symbol (a.toNat % 4 * 16 + b.toNat / 16) ::
      base64Symbol (b.toNat % 16 * 4 + c.toNat / 64) :: base64Symbol (c.toNat % 64) ::
      base64Encode rest

/-- The bytes of the last group of four symbols, which may be padded. -/
def base64DecodeLast (w x y z : Char) : Option (List UInt8) := do
  let a ← base64Value? w
  let b ← base64Value? x
  if y == '=' then
    if z == '=' && b % 16 == 0 then some [(a * 4 + b / 16).toUInt8] else none
  else
    let c ← base64Value? y
    if z == '=' then
      if c % 4 == 0 then some [(a * 4 + b / 16).toUInt8, (b % 16 * 16 + c / 4).toUInt8] else none
    else
      let d ← base64Value? z
      some [(a * 4 + b / 16).toUInt8, (b % 16 * 16 + c / 4).toUInt8, (c % 4 * 64 + d).toUInt8]

/-- The bytes that a text stands for, if it is well formed. -/
def base64Decode? : List Char → Option (List UInt8)
  | [] => some []
  | [w, x, y, z] => base64DecodeLast w x y z
  | w :: x :: y :: z :: rest => do
    let a ← base64Value? w
    let b ← base64Value? x
    let c ← base64Value? y
    let d ← base64Value? z
    let tail ← base64Decode? rest
    some ((a * 4 + b / 16).toUInt8 :: (b % 16 * 16 + c / 4).toUInt8 ::
      (c % 4 * 64 + d).toUInt8 :: tail)
  | _ => none

end CredentialOperator.Text
