import CredentialOperator.Condition
import CredentialOperator.Install.Schema
import CredentialOperator.Selector

/-! # Schemas that both kinds share

Selectors and conditions stand in the objects of both kinds.
-/

namespace CredentialOperator.Schema

/-- One of the texts that some values have. -/
def oneOf {α : Type} (text : α → String) (values : List α) : Schema := .choice (values.map text)

/-- An object all of whose fields are texts that must be there. -/
def texts (fields : List (String × String)) : Schema :=
  .record (fields.map fun f => required f.1 f.2 .string)

/-- An expression of a selector. -/
def selectorExpression : Schema :=
  .described "One \x60matchExpressions\x60 entry" <| .record [
    required "key" "Label key to test" .string,
    required "operator" "Comparison applied to the key's value" <|
      oneOf SelectorOperator.text [.oneOf, .noneOf, .present, .absent],
    optional "values"
      "Candidate values; required by \x60In\x60/\x60NotIn\x60, forbidden otherwise" <|
      .list .string]

/-- A selector. -/
def selector : Schema :=
  .record [
    optional "matchExpressions" "Expressions, all required" (.list selectorExpression),
    optional "matchLabels" "Exact key/value pairs, all required" (.nullable (.map .string))]

/-- A condition. -/
def condition : Schema :=
  .described "Kubernetes-style condition for status reporting" <| .record [
    required "lastTransitionTime" "Last time the condition transitioned" .instant,
    required "message" "Human-readable message" .string,
    optional "observedGeneration"
      "Generation of the resource this condition was computed from" <|
      .nullable (.integer .int64),
    required "reason" "Machine-readable reason for the condition" .string,
    required "status" "Status of the condition (True, False, Unknown)" <|
      oneOf ConditionStatus.text [.true, .false, .unknown],
    required "type" "Type of condition (e.g., Ready, CredentialProvisioned)" .string]

/-- The conditions of a status. -/
def conditions : String × Presence × Schema :=
  optional "conditions" "Current conditions" (.list condition)

end CredentialOperator.Schema
