import CredentialOperator.Startup.Settings

/-! # The command line

The program takes options, then possibly the command `run`, which takes options of its own:
all but those for definitions and for the version.  What is given to `run` wins over what
stands before it.  The command `help` tells about the program or about one of its commands.

Arguments are read from left to right.  The value of an option is checked when the next
option begins or the command's arguments end; that is why an unknown argument is reported
before a bad value that precedes it.  Variables of the environment are read last, and only
for options that the command was not given.
-/

namespace CredentialOperator

/-- What help is asked about. -/
inductive HelpTopic where
  /-- The program. -/
  | program
  /-- The command `run`. -/
  | run
  /-- The command `help`. -/
  | help
deriving DecidableEq, Repr

/-- What is wrong with a command line. -/
inductive UsageError where
  /-- An argument is not known. -/
  | unexpectedArgument (argument : String)
  /-- A command is not known. -/
  | unrecognizedCommand (name : String)
  /-- An option has no value, or an empty one where that is no value. -/
  | missingValue (option : ValueOption)
  /-- A value is no socket address. -/
  | invalidAddress (value : String)
  /-- An option, as messages show it, is given twice. -/
  | repeated (shown : String)
  /-- An option that takes none, as messages show it, has a value. -/
  | unexpectedValue (value shown : String)
deriving DecidableEq, Repr

/-- The wording of an error. -/
def UsageError.message : UsageError → String
  | .unexpectedArgument argument => "unexpected argument '" ++ argument ++ "' found"
  | .unrecognizedCommand name => "unrecognized subcommand '" ++ name ++ "'"
  | .missingValue option =>
    "a value is required for '" ++ option.shown ++ "' but none was supplied"
  | .invalidAddress value =>
    "invalid value '" ++ value ++ "' for '" ++ ValueOption.webhookAddress.shown ++
      "': invalid socket address syntax"
  | .repeated shown => "the argument '" ++ shown ++ "' cannot be used multiple times"
  | .unexpectedValue value shown =>
    "unexpected value '" ++ value ++ "' for '" ++ shown ++ "' found; no more were accepted"

/-- What ends the reading of a command line early. -/
inductive Interruption where
  /-- Help is asked for. -/
  | help (topic : HelpTopic)
  /-- The version is asked for. -/
  | version
  /-- Something is wrong. -/
  | error (e : UsageError)
deriving DecidableEq, Repr

/-- What the program is called for. -/
inductive Invocation where
  /-- To print the definitions of kinds. -/
  | definitions
  /-- To run the operator. -/
  | run (s : Settings)
deriving DecidableEq, Repr

/-- A command with options. -/
inductive CommandLevel where
  /-- The program itself. -/
  | program
  /-- The command `run`. -/
  | run
deriving DecidableEq, Repr

namespace CommandLevel

/-- The help about a command. -/
def topic : CommandLevel → HelpTopic
  | .program => .program
  | .run => .run

/-- Whether a command knows a switch. -/
def knows : CommandLevel → Switch → Bool
  | .program, _ => true
  | .run, s => s ≠ .definitions

/-- The error for an argument that is neither an option nor a value; `escaped` tells whether
it follows two dashes. -/
def strayArgument (level : CommandLevel) (escaped : Bool) (argument : String) : UsageError :=
  match level with
  | .program =>
    if escaped && (argument = "run" || argument = "help") then .unexpectedArgument argument
    else .unrecognizedCommand argument
  | .run => .unexpectedArgument argument

end CommandLevel

/-! ## Reading options -/

/-- Where a value comes from; what comes from the command line weighs more. -/
inductive ValueSource where
  /-- From the environment. -/
  | environment
  /-- From the command line. -/
  | commandLine
deriving DecidableEq, Repr

/-- The options given to a command so far. -/
structure GivenOptions where
  /-- The values, with their sources. -/
  values : List (ValueOption × ValueSource × String) := []
  /-- The switches. -/
  switches : List Switch := []
  /-- The option that was read last, with its value if that was read, until it is checked. -/
  pending : Option (ValueOption × Option String) := none

namespace GivenOptions

/-- The value of an option, with its source. -/
def value? (g : GivenOptions) (o : ValueOption) : Option (ValueSource × String) :=
  (g.values.find? (·.1 = o)).map (·.2)

/-- Checks the value of an option. -/
def check (o : ValueOption) (value : String) : Except UsageError Unit :=
  match o with
  | .webhookAddress =>
    if (SocketAddress.ofText? value).isSome then .ok () else .error (.invalidAddress value)
  | .tlsCertificate | .tlsKey => if value.isEmpty then .error (.missingValue o) else .ok ()
  | .serviceName => .ok ()

/-- Enters a checked value. -/
def enter (g : GivenOptions) (o : ValueOption) (source : ValueSource) (value : String) :
    Except UsageError GivenOptions := do
  check o value
  pure { g with values := g.values ++ [(o, source, value)] }

/-- Enters a value of the command line, unless there is one already. -/
def give (g : GivenOptions) (o : ValueOption) (value : String) :
    Except UsageError GivenOptions :=
  if (g.value? o).isSome then .error (.repeated o.shown)
  else g.enter o .commandLine value

/-- Settles the option that was read last. -/
def settle (g : GivenOptions) : Except UsageError GivenOptions :=
  match g.pending with
  | none => .ok g
  | some (o, none) => .error (.missingValue o)
  | some (o, some value) => ({ g with pending := none }).give o value

/-- Sets a switch, unless it is set already. -/
def switchOn (g : GivenOptions) (s : Switch) : Except UsageError GivenOptions := do
  let g ← g.settle
  if g.switches.contains s then throw (.repeated s.shown)
  else pure { g with switches := g.switches ++ [s] }

/-- Enters the value that the environment has for an option that was not given. -/
def enterVariable (env : Environment) (g : GivenOptions) (o : ValueOption) :
    Except UsageError GivenOptions :=
  if (g.value? o).isSome then .ok g
  else
    match env o.variableName with
    | some value => g.enter o .environment value
    | none => .ok g

/-- Settles the last option and reads the variables of the environment. -/
def complete (env : Environment) (g : GivenOptions) : Except UsageError GivenOptions := do
  ValueOption.all.foldlM (enterVariable env) (← g.settle)

/-- The weightier of the value given to the program and the one given to a command; of two
that weigh the same, that of the command. -/
def weightier (program command : Option (ValueSource × String)) : Option String :=
  match program, command with
  | some (.commandLine, value), some (.environment, _) => some value
  | program, command => ((command.or program).map (·.2))

/-- The settings that the options of the program and of a command make. -/
def settings (program command : GivenOptions) : Settings :=
  let value (o : ValueOption) := (weightier (program.value? o) (command.value? o)).getD o.default
  let on (s : Switch) := program.switches.contains s || command.switches.contains s
  { webhookAddress :=
      (SocketAddress.ofText? (value .webhookAddress)).getD (.v4 0 0 0 0 9443)
    tlsCertificate := value .tlsCertificate
    tlsKey := value .tlsKey
    webhook := !on .noWebhook
    install := !on .noInstall
    serviceName := value .serviceName }

end GivenOptions

/-! ## Reading arguments -/

namespace CommandLine

/-- Reading that may be interrupted. -/
abbrev Reading (α : Type) : Type := Except Interruption α

/-- Takes an error as an interruption. -/
def orError {α : Type} (x : Except UsageError α) : Reading α := x.mapError .error

/-- The name and the value of a long option: they are separated by the first equals sign. -/
def splitLong (cs : List Char) : List Char × Option (List Char) :=
  match cs.dropWhile (· ≠ '=') with
  | _ :: value => (cs.takeWhile (· ≠ '='), some value)
  | [] => (cs, none)

/-- Reads an option that has no value. -/
def readSwitch (g : GivenOptions) (shown : String) (value : Option (List Char))
    (act : Reading GivenOptions) : Reading GivenOptions :=
  match value with
  | some value => throw (.error (.unexpectedValue (String.ofList value) shown))
  | none => do
    let _ ← orError g.settle
    act

/-- Reads a long option, without its dashes. -/
def readLong (level : CommandLevel) (g : GivenOptions) (cs : List Char) :
    Reading GivenOptions :=
  let (nameChars, value) := splitLong cs
  let name := String.ofList nameChars
  match ValueOption.all.find? (·.name = name) with
  | some o => do
    let g ← orError g.settle
    match value with
    | some value => orError (g.give o (String.ofList value))
    | none => pure { g with pending := some (o, none) }
  | none =>
    match Switch.all.find? fun s => s.name = name && level.knows s with
    | some s => readSwitch g s.shown value (orError (g.switchOn s))
    | none =>
      if name = "help" then readSwitch g "--help" value (throw (.help level.topic))
      else if name = "version" && level = .program then
        readSwitch g "--version" value (throw .version)
      else throw (.error (.unexpectedArgument ("--" ++ name)))

/-- Reads short options, of which the first decides. -/
def readShort (level : CommandLevel) (g : GivenOptions) (c : Char) : Reading GivenOptions :=
  if c = 'h' then do
    let _ ← orError g.settle
    throw (.help level.topic)
  else if c = 'V' && level = .program then do
    let _ ← orError g.settle
    throw .version
  else throw (.error (.unexpectedArgument (String.ofList ['-', c])))

/-- What is asked of the command `help`, and about which commands it is asked. -/
def helpAbout : List String → Interruption
  | [] => .help .program
  | ["run"] => .help .run
  | ["help"] => .help .help
  | "run" :: name :: _ | "help" :: name :: _ | name :: _ => .error (.unrecognizedCommand name)

/-- Whether the option that was read last still waits for its value. -/
def waiting? (g : GivenOptions) : Option ValueOption :=
  match g.pending with
  | some (o, none) => some o
  | _ => none

/-- Reads the arguments of a command.  If those of `run` follow, they are returned as well. -/
def readArguments (level : CommandLevel) (g : GivenOptions) :
    List String → Reading (GivenOptions × Option (List String))
  | [] => pure (g, none)
  | argument :: rest => do
    if (waiting? g).isNone && level = .program && argument = "run" then
      return (g, some rest)
    if (waiting? g).isNone && level = .program && argument = "help" then
      throw (helpAbout rest)
    match argument.toList with
    | ['-', '-'] =>
      match rest with
      | [] => pure (g, none)
      | stray :: _ => throw (.error (level.strayArgument true stray))
    | '-' :: '-' :: cs => readArguments level (← readLong level g cs) rest
    | '-' :: c :: _ => readArguments level (← readShort level g c) rest
    | _ =>
      match waiting? g with
      | some o => readArguments level { g with pending := some (o, some argument) } rest
      | none => throw (.error (level.strayArgument false argument))

/-- Reads the arguments of a program. -/
def read (env : Environment) (arguments : List String) : Reading Invocation := do
  let (program, runArguments) ← readArguments .program {} arguments
  let command ←
    match runArguments with
    | none => pure none
    | some arguments => do
      let (command, _) ← readArguments .run {} arguments
      let command ← orError (command.complete env)
      pure (some command)
  let program ← orError (program.complete env)
  if program.switches.contains .definitions then pure .definitions
  else pure (.run (GivenOptions.settings program (command.getD program)))

end CommandLine

end CredentialOperator
