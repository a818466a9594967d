import CredentialOperator.Json.Record

/-! # Label selectors

A selector picks objects by their labels: it asks for exact pairs and for expressions over
single keys, all of which have to hold.  A selector without terms picks everything.
-/

namespace CredentialOperator

/-- How an expression compares the label under its key with its values. -/
inductive SelectorOperator where
  /-- The label is one of the values. -/
  | oneOf
  /-- The label is none of the values, or missing. -/
  | noneOf
  /-- The label is there. -/
  | present
  /-- The label is missing. -/
  | absent
deriving DecidableEq, Repr

namespace SelectorOperator

/-- The text of an operator. -/
def text : SelectorOperator → String
  | .oneOf => "In"
  | .noneOf => "NotIn"
  | .present => "Exists"
  | .absent => "DoesNotExist"

/-- Reads an operator. -/
def ofText? (s : String) : Option SelectorOperator :=
  if s = "In" then some .oneOf
  else if s = "NotIn" then some .noneOf
  else if s = "Exists" then some .present
  else if s = "DoesNotExist" then some .absent
  else none

@[simp] theorem ofText?_text (o : SelectorOperator) : ofText? o.text = some o := by
  cases o <;> rfl

/-- Whether the operator compares with a list of values. -/
def requiresValues : SelectorOperator → Bool
  | .oneOf | .noneOf => true
  | .present | .absent => false

/-- Whether a label, if there is one, passes the comparison. -/
def accepts (o : SelectorOperator) (label : Option String) (values : List String) : Bool :=
  let listed := match label with
    | some v => values.contains v
    | none => false
  match o with
  | .oneOf => listed
  | .noneOf => !listed
  | .present => label.isSome
  | .absent => label.isNone

end SelectorOperator

/-- An expression over one key. -/
structure SelectorExpression where
  /-- The key of the label. -/
  key : String
  /-- The comparison. -/
  operator : SelectorOperator
  /-- The values compared with. -/
  values : List String := []
deriving DecidableEq, Repr

/-- Why an expression is not allowed. -/
inductive SelectorError where
  /-- The key is empty. -/
  | emptyKey
  /-- The operator needs values and there are none. -/
  | missingValues (operator : SelectorOperator) (key : String)
  /-- The operator takes no values and there are some. -/
  | unexpectedValues (operator : SelectorOperator) (key : String)
deriving DecidableEq, Repr

/-- The wording of an error. -/
def SelectorError.message : SelectorError → String
  | .emptyKey => "matchExpressions key must not be empty"
  | .missingValues operator key =>
    s!"operator {operator.text} on key '{key}' requires at least one value"
  | .unexpectedValues operator key =>
    s!"operator {operator.text} on key '{key}' must not have values"

namespace SelectorExpression

/-- Whether a set of labels passes the expression. -/
def accepts (e : SelectorExpression) (labels : StringMap) : Bool :=
  e.operator.accepts labels[e.key]? e.values

/-- The first thing wrong with an expression. -/
def check (e : SelectorExpression) : Except SelectorError Unit :=
  if e.key.isEmpty then .error .emptyKey
  else if e.operator.requiresValues && e.values.isEmpty then
    .error (.missingValues e.operator e.key)
  else if !e.operator.requiresValues && !e.values.isEmpty then
    .error (.unexpectedValues e.operator e.key)
  else .ok ()

/-- An expression as a value. -/
def toJson (e : SelectorExpression) : Json :=
  .object <|
    Json.entry "key" (.string e.key) ++
    Json.entry "operator" (.string e.operator.text) ++
    Json.entries "values" .string e.values

/-- Reads an expression. -/
def ofJson? (j : Json) : Option SelectorExpression := do
  let fields ← j.asObject?
  some {
    key := ← Json.required fields "key" Json.string?
    operator := ← Json.required fields "operator" (Json.named? SelectorOperator.ofText?)
    values := ← Json.defaulted fields "values" [] Json.strings? }

end SelectorExpression

/-- A selector. -/
structure Selector where
  /-- The exact pairs asked for. -/
  matchLabels : Option StringMap := none
  /-- The expressions asked for. -/
  matchExpressions : List SelectorExpression := []
deriving DecidableEq

namespace Selector

/-- The selector that asks for some exact pairs, the last one of each key. -/
def ofPairs (pairs : List (String × String)) : Selector :=
  { matchLabels := some (pairs.foldl (fun m p => m.insert p.1 p.2) ∅) }

/-- The exact pairs asked for, as a list. -/
def pairs (s : Selector) : List (String × String) :=
  match s.matchLabels with
  | some labels => labels.toList
  | none => []

/-- Whether a set of labels passes every term. -/
def accepts (s : Selector) (labels : StringMap) : Bool :=
  s.pairs.all (fun p => labels[p.1]? == some p.2) &&
    s.matchExpressions.all (·.accepts labels)

/-- Whether the selector has no terms. -/
def isEmpty (s : Selector) : Bool :=
  s.matchExpressions.isEmpty && s.pairs.isEmpty

/-- The first thing wrong with the expressions of a selector. -/
def check (s : Selector) : Except SelectorError Unit :=
  s.matchExpressions.forM (·.check)

/-- Whether nothing is wrong with a selector. -/
def isValid (s : Selector) : Bool := s.check.toBool

/-- A selector as a value. -/
def toJson (s : Selector) : Json :=
  .object <|
    Json.optionalEntry "matchLabels" Json.ofStringMap s.matchLabels ++
    Json.entries "matchExpressions" SelectorExpression.toJson s.matchExpressions

/-- Reads a selector. -/
def ofJson? (j : Json) : Option Selector := do
  let fields ← j.asObject?
  some {
    matchLabels := ← Json.optional fields "matchLabels" Json.stringMap?
    matchExpressions :=
      ← Json.defaulted fields "matchExpressions" [] (Json.list? SelectorExpression.ofJson?) }

end Selector

end CredentialOperator
