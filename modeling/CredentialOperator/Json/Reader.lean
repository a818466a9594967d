import CredentialOperator.Json.Number

/-! # Reading JSON texts

A text is read from its front; every reading step returns what it read and the characters
that remain.  Nesting is limited: a value nested deeper than the given depth is not read.
The recursion runs on a supply of steps that `ofText?` computes from the length of the text:
between two steps at least every fourth consumes a character.
-/

namespace CredentialOperator.Json

/-- The deepest nesting that is read in a message. -/
def maxDepth : Nat := 127

/-- The characters that may stand between the parts of a value. -/
def isSpace (c : Char) : Bool :=
  c == ' ' || c == '\n' || c == '\t' || c == '\r'

/-- A text without the spaces at its front. -/
def skipSpace (cs : List Char) : List Char :=
  cs.dropWhile isSpace

/-! ## Strings -/

/-- One element of a string literal: a character, or a sixteen-bit unit given by number. -/
inductive Piece where
  /-- A character that stands for itself or has a short escape. -/
  | char (c : Char)
  /-- A unit written as four hexadecimal digits. -/
  | unit (n : Nat)

/-- The value of a hexadecimal digit. -/
def hexValue? (c : Char) : Option Nat :=
  if '0' ≤ c && c ≤ '9' then some (c.toNat - 48)
  else if 'a' ≤ c && c ≤ 'f' then some (c.toNat - 87)
  else if 'A' ≤ c && c ≤ 'F' then some (c.toNat - 55)
  else none

/-- The value of four hexadecimal digits. -/
def unit? (a b c d : Char) : Option Nat := do
  some (((← hexValue? a) * 16 + (← hexValue? b)) * 256 + (← hexValue? c) * 16 + (← hexValue? d))

/-- The character of a short escape. -/
def shortEscape? (c : Char) : Option Char :=
  match c with
  | '"' => some '"'
  | '\\' => some '\\'
  | '/' => some '/'
  | 'b' => some '\x08'
  | 'f' => some '\x0c'
  | 'n' => some '\n'
  | 'r' => some '\r'
  | 't' => some '\t'
  | _ => none

/-- Reads the elements of a string literal up to its closing quote. -/
def readPieces : List Char → Option (List Piece × List Char)
  | [] => none
  | '"' :: rest => some ([], rest)
  | '\\' :: 'u' :: a :: b :: c :: d :: rest => do
    let n ← unit? a b c d
    let (pieces, rest) ← readPieces rest
    some (.unit n :: pieces, rest)
  | '\\' :: c :: rest => do
    let e ← shortEscape? c
    let (pieces, rest) ← readPieces rest
    some (.char e :: pieces, rest)
  | c :: rest =>
    if c.toNat < 0x20 || c == '\\' then none
    else do
      let (pieces, rest) ← readPieces rest
      some (.char c :: pieces, rest)

/-- The characters that the elements stand for: a unit from the upper half of the surrogates
needs one of the lower half after it, and one of the lower half cannot stand alone. -/
def joinPieces : List Piece → Option (List Char)
  | [] => some []
  | .char c :: rest => (c :: ·) <$> joinPieces rest
  | .unit n :: .unit m :: rest =>
    if 0xD800 ≤ n && n < 0xDC00 then
      if 0xDC00 ≤ m && m < 0xE000 then
        (Char.ofNat (0x10000 + (n - 0xD800) * 0x400 + (m - 0xDC00)) :: ·) <$> joinPieces rest
      else none
    else if 0xDC00 ≤ n && n < 0xE000 then none
    else (Char.ofNat n :: ·) <$> joinPieces (.unit m :: rest)
  | .unit n :: rest =>
    if 0xD800 ≤ n && n < 0xE000 then none
    else (Char.ofNat n :: ·) <$> joinPieces rest

/-- Reads a string literal after its opening quote. -/
def readString (cs : List Char) : Option (String × List Char) := do
  let (pieces, rest) ← readPieces cs
  let chars ← joinPieces pieces
  some (String.ofList chars, rest)

/-! ## Values -/

mutual

/-- Reads a value, spaces before it included. -/
def readValue (steps depth : Nat) (cs : List Char) : Option (Json × List Char) :=
  match steps with
  | 0 => none
  | steps + 1 =>
    match skipSpace cs with
    | 'n' :: 'u' :: 'l' :: 'l' :: rest => some (.null, rest)
    | 't' :: 'r' :: 'u' :: 'e' :: rest => some (.bool true, rest)
    | 'f' :: 'a' :: 'l' :: 's' :: 'e' :: rest => some (.bool false, rest)
    | '"' :: rest => do
      let (s, rest) ← readString rest
      some (.string s, rest)
    | '[' :: rest =>
      match depth with
      | 0 => none
      | depth + 1 =>
        match skipSpace rest with
        | ']' :: rest => some (.array [], rest)
        | rest => do
          let (items, rest) ← readItems steps depth rest
          some (.array items, rest)
    | '\x7b' :: rest =>
      match depth with
      | 0 => none
      | depth + 1 =>
        match skipSpace rest with
        | '\x7d' :: rest => some (.object [], rest)
        | rest => do
          let (fields, rest) ← readFields steps depth rest
          some (.object fields, rest)
    | rest => do
      let (n, rest) ← Number.read rest
      some (.number n, rest)

/-- Reads the items of a list that has at least one, up to its closing bracket. -/
def readItems (steps depth : Nat) (cs : List Char) : Option (List Json × List Char) :=
  match steps with
  | 0 => none
  | steps + 1 => do
    let (j, rest) ← readValue steps depth cs
    match skipSpace rest with
    | ']' :: rest => some ([j], rest)
    | ',' :: rest =>
      let (items, rest) ← readItems steps depth rest
      some (j :: items, rest)
    | _ => none

/-- Reads the fields of an object that has at least one, up to its closing brace. -/
def readFields (steps depth : Nat) (cs : List Char) : Option (List (String × Json) × List Char) :=
  match steps with
  | 0 => none
  | steps + 1 =>
    match skipSpace cs with
    | '"' :: rest => do
      let (name, rest) ← readString rest
      match skipSpace rest with
      | ':' :: rest =>
        let (j, rest) ← readValue steps depth rest
        match skipSpace rest with
        | '\x7d' :: rest => some ([(name, j)], rest)
        | ',' :: rest =>
          let (fields, rest) ← readFields steps depth rest
          some ((name, j) :: fields, rest)
        | _ => none
      | _ => none
    | _ => none

end

/-- The value that a text holds, spaces around it allowed, nested at most `depth` deep. -/
def ofChars? (depth : Nat) (cs : List Char) : Option Json := do
  let (j, rest) ← readValue (4 * cs.length + 4) depth cs
  if (skipSpace rest).isEmpty then some j else none

/-- The value that a text holds. -/
def ofText? (s : String) : Option Json :=
  ofChars? maxDepth s.toList

end CredentialOperator.Json
