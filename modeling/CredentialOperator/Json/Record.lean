import CredentialOperator.Json.Basic
import Std.Data.ExtTreeMap

/-! # Reading and writing records

Objects with known fields are read in one of two ways.

* *Strictly*: a known field may stand at most once; a required one must stand; an optional
  one may be `null`, which is the same as leaving it out; one with a default may be left out
  but not be `null`.
* *Leniently*: every field may be missing or `null`, and the last one counts.

In both ways unknown fields are passed over.  A record is written as the concatenation of
its entries, so that an absent part is an empty list.
-/

namespace CredentialOperator

/-- A map from texts to texts, such as the labels of an object. -/
abbrev StringMap := Std.ExtTreeMap String String compare

namespace Json

/-! ## Values -/

/-- Reads a text. -/
def string? (j : Json) : Option String := j.asString?

/-- Reads a value given by its text. -/
def named? {α : Type} (ofText? : String → Option α) (j : Json) : Option α := do
  ofText? (← j.asString?)

/-- Reads a truth value. -/
def bool? : Json → Option Bool
  | .bool b => some b
  | _ => none

/-- Reads an integer from `lo` up to, but without, `hi`. -/
def integer? (lo hi : Int) : Json → Option Int
  | .number (.integer n) => if lo ≤ n ∧ n < hi then some n else none
  | _ => none

/-- Reads a signed integer of thirty-two bits. -/
def int32? : Json → Option Int := integer? (-0x80000000) 0x80000000

/-- Reads a signed integer of sixty-four bits. -/
def int64? : Json → Option Int := integer? (-0x8000000000000000) 0x8000000000000000

/-- Reads a natural number of sixty-four bits. -/
def nat64? (j : Json) : Option Nat := Int.toNat <$> integer? 0 0x10000000000000000 j

/-- Reads a natural number of sixteen bits. -/
def nat16? (j : Json) : Option Nat := Int.toNat <$> integer? 0 0x10000 j

/-- Reads a list. -/
def list? {α : Type} (read : Json → Option α) : Json → Option (List α)
  | .array items => items.mapM read
  | _ => none

/-- Reads a list of texts. -/
def strings? : Json → Option (List String) := list? string?

/-- Enters the fields of an object into a map, the last one of each name. -/
def mapOfFields? {α : Type} (read : Json → Option α) :
    Fields → Option (Std.ExtTreeMap String α compare)
  | fields => fields.foldlM (fun m f => (m.insert f.1 ·) <$> read f.2) ∅

/-- Reads a map. -/
def map? {α : Type} (read : Json → Option α) : Json → Option (Std.ExtTreeMap String α compare)
  | .object fields => mapOfFields? read fields
  | _ => none

/-- Reads a map of texts. -/
def stringMap? : Json → Option StringMap := map? string?

/-- Reads any object. -/
def object? : Json → Option Json
  | .object fields => some (.object fields)
  | _ => none

/-- Writes a map of texts. -/
def ofStringMap (m : StringMap) : Json :=
  .object (m.toList.map fun e => (e.1, .string e.2))

/-! ## Strict reading -/

/-- The values given for a name, in order. -/
def occurrences (fields : Fields) (name : String) : List Json :=
  (fields.filter fun f => f.1 == name).map (·.2)

/-- The value of a field that may stand at most once. -/
def single? (fields : Fields) (name : String) : Option (Option Json) :=
  match occurrences fields name with
  | [] => some none
  | [j] => some (some j)
  | _ => none

/-- Reads a field that must stand. -/
def required {α : Type} (fields : Fields) (name : String) (read : Json → Option α) : Option α :=
  match single? fields name with
  | some (some j) => read j
  | _ => none

/-- Reads a value that may be `null`. -/
def nullable? {α : Type} (read : Json → Option α) : Json → Option (Option α)
  | .null => some none
  | j => some <$> read j

/-- Reads a field that may be missing or `null`. -/
def optional {α : Type} (fields : Fields) (name : String) (read : Json → Option α) :
    Option (Option α) :=
  match single? fields name with
  | some none => some none
  | some (some j) => nullable? read j
  | none => none

/-- Reads a field that may be missing. -/
def defaulted {α : Type} (fields : Fields) (name : String) (default : α)
    (read : Json → Option α) : Option α :=
  match single? fields name with
  | some none => some default
  | some (some j) => read j
  | none => none

/-! ## Lenient reading -/

/-- Reads a field that may be missing or `null`, and of which the last one counts. -/
def lenient {α : Type} (fields : Fields) (name : String) (read : Json → Option α) :
    Option (Option α) := do
  let values ← (occurrences fields name).mapM (nullable? read)
  some values.getLast?.join

/-- Reads a field leniently and puts a default in its place when it is absent. -/
def lenientOr {α : Type} (fields : Fields) (name : String) (default : α)
    (read : Json → Option α) : Option α :=
  (·.getD default) <$> lenient fields name read

/-- Whether a field that names what kind of object this is, if it stands, has the expected
value. -/
def expects (fields : Fields) (name expected : String) : Bool :=
  (occurrences fields name).all (· = .string expected)

/-! ## Writing -/

/-- The entry of a field that is always written. -/
def entry (name : String) (value : Json) : Fields := [(name, value)]

/-- The entry of a field that is left out when absent. -/
def optionalEntry {α : Type} (name : String) (write : α → Json) : Option α → Fields
  | some a => [(name, write a)]
  | none => []

/-- The entry of a list that is left out when empty. -/
def entries {α : Type} (name : String) (write : α → Json) : List α → Fields
  | [] => []
  | xs => [(name, .array (xs.map write))]

/-- Writes a list of texts. -/
def strings (xs : List String) : Json := .array (xs.map .string)

/-! ## What was written is read -/

theorem occurrences_append (xs ys : Fields) (name : String) :
    occurrences (xs ++ ys) name = occurrences xs name ++ occurrences ys name := by
  simp [occurrences]

@[simp] theorem occurrences_nil (name : String) : occurrences [] name = [] := rfl

theorem occurrences_entry (n : String) (v : Json) (name : String) :
    occurrences (entry n v) name = if n = name then [v] else [] := by
  by_cases h : n = name <;> simp [occurrences, entry, h]

theorem occurrences_optionalEntry {α : Type} (n : String) (write : α → Json) (o : Option α)
    (name : String) :
    occurrences (optionalEntry n write o) name = if n = name then (o.map write).toList else [] := by
  cases o <;> by_cases h : n = name <;> simp [occurrences, optionalEntry, h]

theorem occurrences_entries {α : Type} (n : String) (write : α → Json) (xs : List α)
    (name : String) :
    occurrences (entries n write xs) name =
      if n = name ∧ xs ≠ [] then [.array (xs.map write)] else [] := by
  cases xs <;> by_cases h : n = name <;> simp [occurrences, entries, h]

end Json

end CredentialOperator
