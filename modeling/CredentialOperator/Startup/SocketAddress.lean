/-! # Socket addresses

The address of a socket is that of a host and a port.  A host of version four is written as
four decimal numbers, one of version six as eight groups of hexadecimal digits between
brackets, where one run of groups that are zero may be left out and the last two groups may
be written as an address of version four.

Addresses are written with the longest run of zeros left out, the first one of several.
-/

namespace CredentialOperator

/-- The address of a socket. -/
inductive SocketAddress where
  /-- A host of version four. -/
  | v4 (a b c d : UInt8) (port : UInt16)
  /-- A host of version six, with the scope of its address, zero if it has none. -/
  | v6 (groups : Vector UInt16 8) (scope : UInt32) (port : UInt16)
deriving DecidableEq, Repr

namespace SocketAddress

/-! ## Reading -/

/-- The value of a hexadecimal digit. -/
def hexValue? (c : Char) : Option Nat :=
  if '0' ≤ c && c ≤ '9' then some (c.toNat - '0'.toNat)
  else if 'a' ≤ c && c ≤ 'f' then some (c.toNat - 'a'.toNat + 10)
  else if 'A' ≤ c && c ≤ 'F' then some (c.toNat - 'A'.toNat + 10)
  else none

/-- The digits to a base at the front of a text. -/
def readDigits (base : Nat) : List Char → List Nat × List Char
  | [] => ([], [])
  | c :: rest =>
    match hexValue? c with
    | some d => if d < base then ((readDigits base rest).map (d :: ·) id) else ([], c :: rest)
    | none => ([], c :: rest)

/-- Reads a number that is at most `max`. -/
def readNumber (base max : Nat) (cs : List Char) : Option (Nat × List Char) :=
  let (digits, rest) := readDigits base cs
  let n := digits.foldl (fun n d => n * base + d) 0
  if digits.isEmpty || max < n then none else some (n, rest)

/-- Reads a given character. -/
def readChar (c : Char) : List Char → Option (List Char)
  | [] => none
  | d :: rest => if c = d then some rest else none

/-- Reads a decimal number of eight bits without a zero in front. -/
def readOctet (cs : List Char) : Option (UInt8 × List Char) := do
  let (n, rest) ← readNumber 10 255 cs
  if n.repr.length + rest.length = cs.length then some (n.toUInt8, rest) else none

/-- Reads the four numbers of a host of version four. -/
def readHost4 (cs : List Char) : Option ((UInt8 × UInt8 × UInt8 × UInt8) × List Char) := do
  let (a, cs) ← readOctet cs
  let (b, cs) ← readOctet (← readChar '.' cs)
  let (c, cs) ← readOctet (← readChar '.' cs)
  let (d, cs) ← readOctet (← readChar '.' cs)
  some ((a, b, c, d), cs)

/-- Reads a group of one to four hexadecimal digits. -/
def readGroup (cs : List Char) : Option (UInt16 × List Char) := do
  let (n, rest) ← readNumber 16 65535 cs
  if cs.length ≤ rest.length + 4 then some (n.toUInt16, rest) else none

/-- Two numbers of eight bits as one group. -/
def pairUp (high low : UInt8) : UInt16 := high.toUInt16 * 256 + low.toUInt16

/-- Reads up to `limit` groups between colons; an address of version four may stand for the
last two.  Tells whether one did. -/
def readGroups (first : Bool) : (limit : Nat) → List Char → List UInt16 × Bool × List Char
  | 0, cs => ([], false, cs)
  | limit + 1, cs =>
    let start := if first then some cs else readChar ':' cs
    match if 0 < limit then start.bind readHost4 else none with
    | some ((a, b, c, d), rest) => ([pairUp a b, pairUp c d], true, rest)
    | none =>
      match start.bind readGroup with
      | none => ([], false, cs)
      | some (g, rest) =>
        let (groups, mixed, rest) := readGroups false limit rest
        (g :: groups, mixed, rest)

/-- Eight groups, if there are as many. -/
def ofGroups? (groups : List UInt16) : Option (Vector UInt16 8) :=
  if h : groups.length = 8 then some ⟨groups.toArray, by simpa using h⟩ else none

/-- Reads the groups of a host of version six. -/
def readHost6 (cs : List Char) : Option (Vector UInt16 8 × List Char) := do
  let (front, mixed, rest) := readGroups true 8 cs
  if front.length = 8 then some (← ofGroups? front, rest)
  else if mixed then none
  else
    let rest ← readChar ':' (← readChar ':' rest)
    let (back, _, rest) := readGroups true (7 - front.length) rest
    let zeros := List.replicate (8 - front.length - back.length) 0
    some (← ofGroups? (front ++ zeros ++ back), rest)

/-- Reads the port behind a host. -/
def readPort (cs : List Char) : Option (UInt16 × List Char) := do
  let (n, rest) ← readNumber 10 65535 (← readChar ':' cs)
  some (n.toUInt16, rest)

/-- Reads the scope of an address, if one is given. -/
def readScope (cs : List Char) : UInt32 × List Char :=
  match (readChar '%' cs).bind (readNumber 10 0xFFFFFFFF) with
  | some (n, rest) => (n.toUInt32, rest)
  | none => (0, cs)

/-- Reads an address of version four. -/
def read4 (cs : List Char) : Option (SocketAddress × List Char) := do
  let ((a, b, c, d), cs) ← readHost4 cs
  let (port, cs) ← readPort cs
  some (.v4 a b c d port, cs)

/-- Reads an address of version six. -/
def read6 (cs : List Char) : Option (SocketAddress × List Char) := do
  let (groups, cs) ← readHost6 (← readChar '[' cs)
  let (scope, cs) := readScope cs
  let (port, cs) ← readPort (← readChar ']' cs)
  some (.v6 groups scope port, cs)

/-- The address that a text is. -/
def ofText? (s : String) : Option SocketAddress :=
  match (read4 s.toList).or (read6 s.toList) with
  | some (a, []) => some a
  | _ => none

/-! ## Writing -/

/-- The hexadecimal text of a group. -/
def groupText (g : UInt16) : String := String.ofList (Nat.toDigits 16 g.toNat)

/-- Groups between colons. -/
def groupsText (gs : List UInt16) : String := ":".intercalate (gs.map groupText)

/-- The number of zeros at the front of some groups. -/
def zerosAtFront (gs : List UInt16) : Nat := (gs.takeWhile (· == 0)).length

/-- Where the longest run of zeros starts, the first one of several, and how long it is. -/
def longestZeros (gs : List UInt16) : Nat × Nat :=
  (List.range gs.length).foldl
    (fun best i =>
      let length := zerosAtFront (gs.drop i)
      if best.2 < length then (i, length) else best)
    (0, 0)

/-- The text of a host of version four. -/
def host4Text (a b c d : Nat) : String :=
  ".".intercalate [toString a, toString b, toString c, toString d]

/-- The text of a host of version six. -/
def host6Text (gs : List UInt16) : String :=
  match gs with
  | [0, 0, 0, 0, 0, 0xFFFF, x, y] =>
    "::ffff:" ++ host4Text (x.toNat / 256) (x.toNat % 256) (y.toNat / 256) (y.toNat % 256)
  | _ =>
    let (start, length) := longestZeros gs
    if 1 < length then
      groupsText (gs.take start) ++ "::" ++ groupsText (gs.drop (start + length))
    else groupsText gs

/-- The text of an address. -/
def render : SocketAddress → String
  | .v4 a b c d port =>
    host4Text a.toNat b.toNat c.toNat d.toNat ++ ":" ++ toString port.toNat
  | .v6 groups scope port =>
    let scopeText := if scope = 0 then "" else "%" ++ toString scope.toNat
    "[" ++ host6Text groups.toList ++ scopeText ++ "]:" ++ toString port.toNat

end SocketAddress

end CredentialOperator
