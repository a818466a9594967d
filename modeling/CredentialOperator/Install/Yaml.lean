import CredentialOperator.Json.Writer

/-! # Block style YAML

A value as a YAML document in block style: the fields of an object under each other, nested
values indented by two, the items of a list behind dashes that stand under the name of the
list.  A text stands as it is where no reader can take it for anything else, over several
lines after a bar if it has several, and between quotes otherwise.
-/

namespace CredentialOperator.Yaml

/-- The words that readers take for truth values or for no value. -/
def reservedWords : List String :=
  ["true", "True", "TRUE", "false", "False", "FALSE", "null", "Null", "NULL", "~"]

/-- Whether a text reads as a number. -/
def readsAsNumber (s : String) : Bool :=
  let cs := match s.toList with
    | '+' :: rest => rest
    | cs => cs
  ((Number.read cs).map fun r => r.2.isEmpty).getD false

/-- Whether a character has a meaning of its own at the front of a text. -/
def isIndicator (c : Char) : Bool := "#,[]\x7b\x7d&*!|>'\"%@\x60".toList.contains c

/-- Whether a text may stand without quotes from here on; `before` is the character before. -/
def isPlainAfter (before : Char) : List Char → Bool
  | [] => before != ' '
  | c :: rest =>
    !(c.toNat < 0x20) && !(c == '#' && before == ' ') &&
      !(c == ':' && (rest.isEmpty || rest.head? == some ' ')) && isPlainAfter c rest

/-- Whether a text may stand without quotes. -/
def isPlain (s : String) : Bool :=
  match s.toList with
  | [] => false
  | c :: rest =>
    !reservedWords.contains s && !readsAsNumber s && !isIndicator c && c != ' ' &&
      !((c == '-' || c == '?') && (rest.isEmpty || rest.head? == some ' ')) &&
      isPlainAfter 'a' (c :: rest)

/-- A text between single quotes, of which those inside are doubled. -/
def singleQuoted (s : String) : String :=
  "'" ++ String.ofList (s.toList.flatMap fun c => if c == '\'' then [c, c] else [c]) ++ "'"

/-- A text as it stands in one line. -/
def inlineText (s : String) : String :=
  if isPlain s then s
  else if s.toList.any (·.toNat < 0x20) then Json.renderString s
  else singleQuoted s

/-- The characters of each line of a text. -/
def lines (cs : List Char) : List (List Char) :=
  match cs with
  | [] => [[]]
  | '\n' :: rest => [] :: lines rest
  | c :: rest =>
    match lines rest with
    | [] => [[c]]
    | l :: ls => (c :: l) :: ls

/-- Moves lines to the right; empty ones stay empty. -/
def indent (ls : List String) : List String :=
  ls.map fun l => if l.isEmpty then l else "  " ++ l

/-- A text of several lines: a bar, and the lines under it. -/
def literalText? (s : String) : Option (List String) :=
  let cs := s.toList
  if cs.contains '\n' && cs.getLast? != some '\n' && cs.head? != some ' ' &&
      cs.all (fun c => c == '\n' || !(c.toNat < 0x20)) then
    some ("|-" :: indent ((lines cs).map String.ofList))
  else none

/-- A text as it stands in a document, line by line. -/
def textLines (s : String) : List String := (literalText? s).getD [inlineText s]

/-- Puts a text in front of the first line. -/
def onFirst (start : String) : List String → List String
  | [] => [start]
  | l :: ls => (start ++ l) :: ls

/-- A line followed by deeper ones, behind a dash. -/
def dashed : List String → List String
  | [] => ["-"]
  | l :: ls => ("- " ++ l) :: indent ls

mutual

/-- The lines of a value. -/
def valueLines : Json → List String
  | .string s => textLines s
  | .array [] => ["[]"]
  | .array (j :: rest) => itemLines (j :: rest)
  | .object [] => ["\x7b\x7d"]
  | .object (f :: rest) => fieldLines (f :: rest)
  | j => [j.render]

/-- The lines of the items of a list. -/
def itemLines : List Json → List String
  | [] => []
  | j :: rest => dashed (valueLines j) ++ itemLines rest

/-- The lines of the fields of an object. -/
def fieldLines : List (String × Json) → List String
  | [] => []
  | (name, .array (j :: items)) :: rest =>
    (inlineText name ++ ":") :: (valueLines (.array (j :: items)) ++ fieldLines rest)
  | (name, .object (f :: fields)) :: rest =>
    (inlineText name ++ ":") ::
      (indent (valueLines (.object (f :: fields))) ++ fieldLines rest)
  | (name, value) :: rest =>
    onFirst (inlineText name ++ ": ") (valueLines value) ++ fieldLines rest

end

/-- A value as a document. -/
def document (j : Json) : String := String.join ((valueLines j).map (· ++ "\n"))

/-- Several documents in one text. -/
def stream (js : List Json) : String := "---\n".intercalate (js.map document)

end CredentialOperator.Yaml
