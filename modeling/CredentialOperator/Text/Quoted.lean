import CredentialOperator.Text.CodeRange
import CredentialOperator.Text.PrintTable

/-! # Quoted texts in messages

Messages that show a name or a whole answer quote it: double quotes around it, a backslash
before a double quote or a backslash, the usual short escapes, and a hexadecimal code point
in braces for what cannot be printed on its own.
-/

namespace CredentialOperator.Text

/-- The digits of a number in base sixteen, lower case, no leading zero. -/
def hex (n : Nat) : List Char :=
  Nat.toDigits 16 n

/-- Whether a character can stand for itself in a quoted text. -/
def isPrintable (c : Char) : Bool :=
  let n := c.toNat
  if n < 0x80 then 0x20 ≤ n && n < 0x7F
  else !inRanges graphemeExtendRanges n && !inRanges unprintableRanges n

/-- A character as it stands between the quotes. -/
def quotedChar (c : Char) : List Char :=
  match c with
  | '"' => ['\\', '"']
  | '\\' => ['\\', '\\']
  | '\n' => ['\\', 'n']
  | '\r' => ['\\', 'r']
  | '\t' => ['\\', 't']
  | '\x00' => ['\\', '0']
  | c => if isPrintable c then [c] else ['\\', 'u', '\x7b'] ++ hex c.toNat ++ ['\x7d']

/-- A text in quotes. -/
def quoted (s : String) : String :=
  String.ofList ('"' :: (s.toList.flatMap quotedChar ++ ['"']))

end CredentialOperator.Text
