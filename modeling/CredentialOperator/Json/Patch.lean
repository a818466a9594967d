import CredentialOperator.Json.MergePatch

/-! # JSON patches

A patch is a list of operations, each on the place that a path names: the field of an
object, the item of a list.  `diff` finds a patch that turns one value into another,
`patched?` carries a patch out.
-/

namespace CredentialOperator.Json

/-- A place in a value, as the names and indices that lead to it. -/
abbrev Path := List String

/-- One operation of a patch. -/
inductive Operation where
  /-- Sets a field or inserts an item. -/
  | add (path : Path) (value : Json)
  /-- Removes a field or an item. -/
  | remove (path : Path)
  /-- Puts another value in the place of one that is there. -/
  | replace (path : Path) (value : Json)
deriving DecidableEq, Repr

/-- A patch, whose operations are carried out in order. -/
abbrev Patch := List Operation

/-! ## Paths as texts -/

/-- A character of a path's part: the two characters with a meaning of their own are
escaped. -/
def escapePart (c : Char) : List Char :=
  match c with
  | '~' => ['~', '0']
  | '/' => ['~', '1']
  | c => [c]

/-- The text of a path. -/
def pointer (path : Path) : String :=
  String.join (path.map fun part => "/" ++ String.ofList (part.toList.flatMap escapePart))

/-- An operation as a value. -/
def Operation.toJson : Operation → Json
  | .add path value =>
    .object [("op", .string "add"), ("path", .string (pointer path)), ("value", value)]
  | .remove path => .object [("op", .string "remove"), ("path", .string (pointer path))]
  | .replace path value =>
    .object [("op", .string "replace"), ("path", .string (pointer path)), ("value", value)]

/-! ## Finding a patch -/

mutual

/-- The operations at and below a place that turn one value into another. -/
def diffAt (path : Path) (left : Json) : Json → Patch
  | .object fields =>
    match left with
    | .object old =>
      diffFields path old fields ++
        (old.filter fun f => (lookup fields f.1).isNone).map fun f => .remove (path ++ [f.1])
    | _ => [.replace path (.object fields)]
  | .array items =>
    match left with
    | .array old => diffItems path 0 old items
    | _ => [.replace path (.array items)]
  | right => if left = right then [] else [.replace path right]

/-- The operations for the fields of the new object. -/
def diffFields (path : Path) (old : Fields) : List (String × Json) → Patch
  | [] => []
  | (n, v) :: rest =>
    (match lookup old n with
      | some w => diffAt (path ++ [n]) w v
      | none => [.add (path ++ [n]) v]) ++ diffFields path old rest

/-- The operations for the items from index `i` on. -/
def diffItems (path : Path) (i : Nat) (old : List Json) : List Json → Patch
  | [] => old.map fun _ => .remove (path ++ [toString i])
  | v :: rest =>
    match old with
    | w :: old => diffAt (path ++ [toString i]) w v ++ diffItems path (i + 1) old rest
    | [] => .add (path ++ [toString i]) v :: diffItems path (i + 1) [] rest

end

/-- A patch that turns one value into another. -/
def diff (left right : Json) : Patch := diffAt [] left right

/-! ## Carrying out a patch -/

/-- The index that a part of a path names: digits without a leading zero. -/
def index? (part : String) : Option Nat :=
  let cs := part.toList
  if cs.isEmpty || !cs.all Char.isDigit || (cs.head? == some '0' && 1 < cs.length) then none
  else some (cs.foldl (fun n c => n * 10 + (c.toNat - 48)) 0)

/-- Sets a field or inserts an item. -/
def insertPart (j : Json) (part : String) (value : Json) : Option Json :=
  match j with
  | .object fields => some (.object (put fields part value))
  | .array items =>
    if part = "-" then some (.array (items ++ [value]))
    else do
      let i ← index? part
      if i ≤ items.length then some (.array (items.take i ++ value :: items.drop i)) else none
  | _ => none

/-- Removes a field or an item that is there. -/
def removePart (j : Json) (part : String) : Option Json :=
  match j with
  | .object fields =>
    if (lookup fields part).isSome then some (.object (erase fields part)) else none
  | .array items => do
    let i ← index? part
    if i < items.length then some (.array (items.take i ++ items.drop (i + 1))) else none
  | _ => none

/-- The field or item that a part of a path names. -/
def child? (j : Json) (part : String) : Option Json :=
  match j with
  | .object fields => lookup fields part
  | .array items => do items[← index? part]?
  | _ => none

/-- Puts another value in the place of a field or item that is there. -/
def replacePart (j : Json) (part : String) (value : Json) : Option Json :=
  match j with
  | .object fields =>
    if (lookup fields part).isSome then some (.object (put fields part value)) else none
  | .array items => do
    let i ← index? part
    if i < items.length then some (.array (items.set i value)) else none
  | _ => none

/-- Changes the value at a place, which must be there. -/
def modifyAt (change : Json → Option Json) : Path → Json → Option Json
  | [], j => change j
  | part :: rest, j => do
    let old ← child? j part
    let new ← modifyAt change rest old
    replacePart j part new

/-- Carries out one operation. -/
def Operation.patched? (j : Json) : Operation → Option Json
  | .add path value =>
    match path.getLast? with
    | none => some value
    | some part => modifyAt (insertPart · part value) path.dropLast j
  | .remove path =>
    match path.getLast? with
    | none => none
    | some part => modifyAt (removePart · part) path.dropLast j
  | .replace path value =>
    match path.getLast? with
    | none => some value
    | some part => modifyAt (replacePart · part value) path.dropLast j

/-- Carries out a patch. -/
def patched? (j : Json) (patch : Patch) : Option Json :=
  patch.foldlM Operation.patched? j

end CredentialOperator.Json
