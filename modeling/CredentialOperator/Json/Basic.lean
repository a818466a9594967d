/-! # JSON values

A JSON value as it stands in a text: the fields of an object keep their order and may repeat.
`Json.normalize` is the value that a program keeps which reads objects into maps: fields in
ascending order of their names, the last of several fields with one name.

Numbers are integers of sixty-four bits, signed or not, or reals given by a decimal
expansion; `-0` and integers beyond that range are reals.
-/

namespace CredentialOperator

/-- A JSON number. -/
inductive Number where
  /-- An integer. -/
  | integer (value : Int)
  /-- The real `digits * 10 ^ exponent`, negated if `negative` is set. -/
  | real (negative : Bool) (digits : Nat) (exponent : Int)
deriving DecidableEq, Repr

/-- A JSON value. -/
inductive Json where
  /-- The value `null`. -/
  | null
  /-- A truth value. -/
  | bool (value : Bool)
  /-- A number. -/
  | number (value : Number)
  /-- A text. -/
  | string (value : String)
  /-- A list of values. -/
  | array (items : List Json)
  /-- An object, as the list of its fields. -/
  | object (fields : List (String × Json))
deriving Repr, Inhabited

/-- The fields of an object. -/
abbrev Fields := List (String × Json)

namespace Json

mutual

/-- Equality of values is decidable. -/
def decEq : (a b : Json) → Decidable (a = b)
  | .null, .null => isTrue rfl
  | .bool x, .bool y => if h : x = y then isTrue (h ▸ rfl) else isFalse fun e => h (by injection e)
  | .number x, .number y =>
    if h : x = y then isTrue (h ▸ rfl) else isFalse fun e => h (by injection e)
  | .string x, .string y =>
    if h : x = y then isTrue (h ▸ rfl) else isFalse fun e => h (by injection e)
  | .array xs, .array ys =>
    match decEqItems xs ys with
    | isTrue h => isTrue (h ▸ rfl)
    | isFalse h => isFalse fun e => h (by injection e)
  | .object xs, .object ys =>
    match decEqFields xs ys with
    | isTrue h => isTrue (h ▸ rfl)
    | isFalse h => isFalse fun e => h (by injection e)
  | .null, .bool _ | .null, .number _ | .null, .string _ | .null, .array _ | .null, .object _
  | .bool _, .null | .bool _, .number _ | .bool _, .string _ | .bool _, .array _
  | .bool _, .object _ | .number _, .null | .number _, .bool _ | .number _, .string _
  | .number _, .array _ | .number _, .object _ | .string _, .null | .string _, .bool _
  | .string _, .number _ | .string _, .array _ | .string _, .object _ | .array _, .null
  | .array _, .bool _ | .array _, .number _ | .array _, .string _ | .array _, .object _
  | .object _, .null | .object _, .bool _ | .object _, .number _ | .object _, .string _
  | .object _, .array _ => isFalse nofun

/-- Equality of lists of values is decidable. -/
def decEqItems : (xs ys : List Json) → Decidable (xs = ys)
  | [], [] => isTrue rfl
  | [], _ :: _ | _ :: _, [] => isFalse nofun
  | x :: xs, y :: ys =>
    match decEq x y, decEqItems xs ys with
    | isTrue h, isTrue k => isTrue (h ▸ k ▸ rfl)
    | isFalse h, _ => isFalse fun e => h (by injection e)
    | _, isFalse k => isFalse fun e => k (by injection e)

/-- Equality of lists of fields is decidable. -/
def decEqFields : (xs ys : List (String × Json)) → Decidable (xs = ys)
  | [], [] => isTrue rfl
  | [], _ :: _ | _ :: _, [] => isFalse nofun
  | (m, x) :: xs, (n, y) :: ys =>
    if hn : m = n then
      match decEq x y, decEqFields xs ys with
      | isTrue h, isTrue k => isTrue (hn ▸ h ▸ k ▸ rfl)
      | isFalse h, _ => isFalse fun e => h (by injection e with e _; injection e)
      | _, isFalse k => isFalse fun e => k (by injection e)
    else isFalse fun e => hn (by injection e with e _; injection e)

end

instance : DecidableEq Json := decEq

/-- The last value given for a name. -/
def lookup (fields : Fields) (name : String) : Option Json :=
  match fields with
  | [] => none
  | (n, v) :: rest => (lookup rest name).or (if n = name then some v else none)

/-- The field of an object; `none` also for a value that is no object. -/
def get? (j : Json) (name : String) : Option Json :=
  match j with
  | .object fields => lookup fields name
  | _ => none

/-- The text, of a value that is one. -/
def asString? : Json → Option String
  | .string s => some s
  | _ => none

/-- The items, of a value that is a list. -/
def asArray? : Json → Option (List Json)
  | .array items => some items
  | _ => none

/-- The fields, of a value that is an object. -/
def asObject? : Json → Option Fields
  | .object fields => some fields
  | _ => none

/-- A whole number as a value. -/
def ofInt (n : Int) : Json := .number (.integer n)

/-- A natural number as a value. -/
def ofNat (n : Nat) : Json := .number (.integer n)

/-- A list of texts as a value. -/
def ofStrings (xs : List String) : Json := .array (xs.map .string)

/-! ## Fields in order of their names -/

/-- Sets a field in a list that ascends by name. -/
def setOrdered (fields : Fields) (name : String) (value : Json) : Fields :=
  match fields with
  | [] => [(name, value)]
  | (n, v) :: rest =>
    if name < n then (name, value) :: (n, v) :: rest
    else if name = n then (name, value) :: rest
    else (n, v) :: setOrdered rest name value

mutual

/-- The value with the fields of every object in ascending order of their names, the last one
of each name. -/
def normalize : Json → Json
  | .array items => .array (normalizeItems items)
  | .object fields => .object (normalizeFields [] fields)
  | j => j

/-- Normalizes every item of a list. -/
def normalizeItems : List Json → List Json
  | [] => []
  | j :: rest => normalize j :: normalizeItems rest

/-- Enters fields one by one into an ascending list. -/
def normalizeFields (done : Fields) : List (String × Json) → Fields
  | [] => done
  | (n, v) :: rest => normalizeFields (setOrdered done n (normalize v)) rest

end

@[simp] theorem lookup_nil (name : String) : lookup [] name = none := rfl

theorem lookup_append (xs ys : Fields) (name : String) :
    lookup (xs ++ ys) name = (lookup ys name).or (lookup xs name) := by
  induction xs with
  | nil => simp
  | cons x xs ih => simp [lookup, ih, Option.or_assoc]

end Json

end CredentialOperator
