import CredentialOperator.Install.Schema
import CredentialOperator.Names
import CredentialOperator.Resource.Kind

/-! # Definitions of kinds

What the cluster is told about a kind before it accepts objects of that kind: its names, where
its objects live, which columns a listing shows, and the schema of its objects.
-/

namespace CredentialOperator

/-- Where the objects of a kind live. -/
inductive Scope where
  /-- Each in a namespace. -/
  | namespaced
  /-- Beside the namespaces. -/
  | cluster
deriving DecidableEq, Repr

/-- The text of a scope. -/
def Scope.text : Scope → String
  | .namespaced => "Namespaced"
  | .cluster => "Cluster"

/-- A column of a listing. -/
structure ListingColumn where
  /-- The heading. -/
  name : String
  /-- The type of the values. -/
  type : String
  /-- Where the values are found. -/
  jsonPath : String
deriving DecidableEq, Repr

/-- The column as it stands in a definition. -/
def ListingColumn.toJson (c : ListingColumn) : Json :=
  .object [("jsonPath", .string c.jsonPath), ("name", .string c.name), ("type", .string c.type)]

/-- The definition of a kind of the operator. -/
structure KindDefinition where
  /-- The kind. -/
  kind : ResourceKind
  /-- A short name for it. -/
  shortName : String
  /-- Where its objects live. -/
  scope : Scope
  /-- The columns of its listings. -/
  columns : List ListingColumn
  /-- The schema of what is declared in an object. -/
  spec : Schema
  /-- The schema of what is observed of an object. -/
  status : Schema

namespace KindDefinition

/-- The name of a definition. -/
def name (d : KindDefinition) : String := d.kind.plural ++ "." ++ d.kind.group

/-- The schema of the objects of a kind. -/
def schema (d : KindDefinition) : Json :=
  let form : Schema := .record [("spec", .required, d.spec), ("status", .optional, d.status)]
  let description := "Auto-generated derived type for " ++ d.kind.kind ++
    "Spec via \x60CustomResource\x60"
  .object (("description", .string description) :: ("title", .string d.kind.kind) :: form.entries)

/-- The names of a kind. -/
def names (d : KindDefinition) : Json :=
  .object [("categories", .array []), ("kind", .string d.kind.kind),
    ("plural", .string d.kind.plural), ("shortNames", Json.ofStrings [d.shortName]),
    ("singular", .string (Text.lowercase d.kind.kind))]

/-- The one version of a kind. -/
def version (d : KindDefinition) : Json :=
  .object [("additionalPrinterColumns", .array (d.columns.map ListingColumn.toJson)),
    ("name", .string d.kind.version), ("schema", .object [("openAPIV3Schema", d.schema)]),
    ("served", .bool true), ("storage", .bool true),
    ("subresources", .object [("status", .object [])])]

/-- A definition as an object of the cluster, its fields in ascending order of their names. -/
def toJson (d : KindDefinition) : Json :=
  Json.normalize <| .object [("apiVersion", .string "apiextensions.k8s.io/v1"),
    ("kind", .string "CustomResourceDefinition"),
    ("metadata", .object [("name", .string d.name)]),
    ("spec", .object [("group", .string d.kind.group), ("names", d.names),
      ("scope", .string d.scope.text), ("versions", .array [d.version])])]

end KindDefinition

end CredentialOperator
