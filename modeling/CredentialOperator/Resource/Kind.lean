import CredentialOperator.Text.Lowercase

/-! # Kinds of objects

The coordinates of a kind in the interface of the cluster: its group and version, its name,
and the plural that stands in paths.
-/

namespace CredentialOperator

/-- A kind of objects. -/
structure ResourceKind where
  /-- The group; empty for the core kinds. -/
  group : String
  /-- The version within the group. -/
  version : String
  /-- Group and version as they stand in objects. -/
  apiVersion : String
  /-- The name of the kind. -/
  kind : String
  /-- The plural in paths. -/
  plural : String
deriving DecidableEq, Repr

namespace ResourceKind

/-- The group and version that a text names: they are separated by the first slash, and a
text without one is the version of a core kind. -/
def splitApiVersion (apiVersion : String) : String × String :=
  let cs := apiVersion.toList
  match cs.dropWhile (· ≠ '/') with
  | _ :: version => (String.ofList (cs.takeWhile (· ≠ '/')), String.ofList version)
  | [] => ("", apiVersion)

/-- Whether a text ends in the given characters. -/
def endsWith (cs ending : List Char) : Bool :=
  ending.isSuffixOf cs

/-- The plural of a kind: `es` after a hiss, `ies` for a final `y` after a consonant, `o` or
`u`, and `s` for all else, in lower case. -/
def pluralize (kind : String) : String :=
  let cs := (Text.lowercase kind).toList
  let plural :=
    if endsWith cs ['s'] || endsWith cs ['c', 'h'] || endsWith cs ['s', 'h'] then cs ++ ['e', 's']
    else if endsWith cs ['y'] && !endsWith cs ['a', 'y'] && !endsWith cs ['e', 'y'] then
      cs.dropLast ++ ['i', 'e', 's']
    else cs ++ ['s']
  String.ofList plural

/-- The kind with the given name and interface version. -/
def ofNames (apiVersion kind : String) : ResourceKind :=
  let parts := splitApiVersion apiVersion
  { group := parts.1, version := parts.2, apiVersion, kind, plural := pluralize kind }

end ResourceKind

end CredentialOperator
