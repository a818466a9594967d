import CredentialOperator.Text.Blank

/-! # Log filters

A log filter is a list of directives, each of which lets the messages of some targets pass up
to a level.  A directive is for the targets that begin with its target, and of all directives
that are for a target the one with the longest target counts, the last of several.

Directives can also be limited to spans; nothing is logged inside of one here, so these let
nothing pass.
-/

namespace CredentialOperator

/-- How much a message matters. -/
inductive LogLevel where
  /-- Something failed. -/
  | error
  /-- Something is suspicious. -/
  | warn
  /-- Something of interest happened. -/
  | info
  /-- Details for developers. -/
  | debug
  /-- Every step. -/
  | trace
deriving DecidableEq, Repr

namespace LogLevel

/-- The number of levels that matter no less. -/
def rank : LogLevel → Nat
  | .error => 1
  | .warn => 2
  | .info => 3
  | .debug => 4
  | .trace => 5

/-- The text of a level in a log. -/
def text : LogLevel → String
  | .error => "ERROR"
  | .warn => "WARN"
  | .info => "INFO"
  | .debug => "DEBUG"
  | .trace => "TRACE"

end LogLevel

/-- What a directive says. -/
structure LogDirective where
  /-- The beginning of the targets that it is for; `none` for all targets. -/
  target : Option (List Char)
  /-- The greatest rank of the levels that pass; zero if none does. -/
  maxRank : Nat
deriving DecidableEq, Repr

/-- A log filter. -/
abbrev LogFilter : Type := List LogDirective

namespace LogFilter

/-! ## Reading -/

/-- A text with its ASCII capitals made small. -/
def small (cs : List Char) : String := String.ofList (cs.map Char.toLower)

/-- The greatest rank that passes at a level, which is given by its name, in any case, or by
its number. -/
def rankOf? (cs : List Char) : Option Nat :=
  match cs with
  | [] => some LogLevel.trace.rank
  | '0' :: c :: rest | '+' :: c :: rest => if c.isDigit then rankOf? (c :: rest) else none
  | ['0'] => some 0
  | ['1'] => some 1
  | ['2'] => some 2
  | ['3'] => some 3
  | ['4'] => some 4
  | ['5'] => some 5
  | cs =>
    match small cs with
    | "off" => some 0
    | "error" => some 1
    | "warn" => some 2
    | "info" => some 3
    | "debug" => some 4
    | "trace" => some 5
    | _ => none

/-- Whether a directive may begin with a character; letters beyond ASCII count as letters
whatever they are. -/
def beginsDirective (c : Char) : Bool :=
  c == '-' || c == ':' || c == '_' || c == '[' || c.isAlphanum || 0x7F < c.toNat

/-- Whether the rest of a directive, behind an opening bracket, is of the right form: a span,
its fields between braces, a closing bracket, and a level. -/
def isSpanRest (cs : List Char) : Bool :=
  let inside := cs.dropWhile fun c => c != ']' && c != '\x7b'
  let afterFields : Option (List Char) := match inside with
    | ']' :: rest => some rest
    | '\x7b' :: fields =>
      match fields.dropWhile (· != '\x7d') with
      | '\x7d' :: ']' :: rest => if fields.head? == some '\x7d' then none else some rest
      | _ => none
    | _ => none
  match afterFields with
  | some [] => true
  | some ('=' :: level) => (rankOf? level).isSome
  | _ => false

/-- Reads a directive; the inner result is `none` for one that is limited to spans. -/
def directive? (cs : List Char) : Option (Option LogDirective) :=
  let name := cs.takeWhile fun c => c != '=' && c != '['
  if !(cs.head?.map beginsDirective).getD false || Text.trim cs != cs then none
  else
    match cs.drop name.length with
    | [] =>
      match rankOf? name with
      | some maxRank => some (some { target := none, maxRank })
      | none => some (some { target := some name, maxRank := LogLevel.trace.rank })
    | '=' :: level =>
      (rankOf? level).map fun maxRank => some { target := some name, maxRank }
    | _ :: rest => if isSpanRest rest then some none else none

/-- The parts of a text between commas. -/
def parts (cs : List Char) : List (List Char) :=
  match cs with
  | [] => [[]]
  | ',' :: rest => [] :: parts rest
  | c :: rest =>
    match parts rest with
    | [] => [[c]]
    | p :: ps => (c :: p) :: ps

/-- Reads directives between commas.  A filter without any lets only errors pass. -/
def ofText? (s : String) : Option LogFilter := do
  let directives ← ((parts s.toList).filter (!·.isEmpty)).mapM directive?
  some <|
    if directives.isEmpty then [{ target := none, maxRank := LogLevel.error.rank }]
    else directives.filterMap id

/-! ## Filtering -/

/-- How specific a directive is for a target; `none` if it is not for it. -/
def specificity? (target : List Char) (d : LogDirective) : Option Nat :=
  match d.target with
  | none => some 0
  | some start => if start.isPrefixOf target then some (start.length + 1) else none

/-- The greatest rank that passes for a target, together with the specificity of the directive
that says so. -/
def best (target : List Char) : LogFilter → Option (Nat × Nat)
  | [] => none
  | d :: rest =>
    match specificity? target d, best target rest with
    | none, later => later
    | some n, none => some (n, d.maxRank)
    | some n, some later => if later.1 < n then some (n, d.maxRank) else some later

/-- Whether a message of a target passes at a level. -/
def passes (f : LogFilter) (target : String) (level : LogLevel) : Bool :=
  match best target.toList f with
  | some (_, maxRank) => level.rank ≤ maxRank
  | none => false

/-- The text of the filter that is used where none is given. -/
def defaultText : String := "info,keygate=debug,kube=info,tower=warn,hyper=warn"

/-- The filter that a setting gives; one that cannot be read counts as none. -/
def ofSetting (setting : Option String) : LogFilter :=
  ((setting.bind ofText?).or (ofText? defaultText)).getD []

end LogFilter

end CredentialOperator
