import CredentialOperator.Startup.CommandLine

/-! # Help

The texts that the program prints about itself.  An option with a variable is shown with the
value that the variable has.
-/

namespace CredentialOperator.Help

/-- The name of the program. -/
def programName : String := "keygate"

/-- The version of the program, in the line that tells it. -/
def versionText : String := programName ++ " 0.1.0\n"

/-- What the program is for. -/
def programSummary : String :=
  programName ++ " - provisions API credentials to workloads from CredentialGrants"

/-- What the command `run` does. -/
def runSummary : String := "Run the controllers and admission webhooks (default mode)"

/-- What the command `help` does. -/
def helpSummary : String := "Print this message or the help of the given subcommand(s)"

/-- A text with blanks behind it up to a width. -/
def padded (width : Nat) (s : String) : String :=
  s ++ String.ofList (List.replicate (width - s.length) ' ')

/-- The column in which the descriptions of options start. -/
def optionColumn : Nat := 37

/-- Further lines of a description start in its column. -/
def aligned (s : String) : String :=
  String.ofList (s.toList.flatMap fun c =>
    if c = '\n' then '\n' :: List.replicate optionColumn ' ' else [c])

/-- The line of an option. -/
def optionLine (start description : String) : String :=
  padded optionColumn start ++ aligned description ++ "\n"

/-- The line of a switch. -/
def switchLine (s : Switch) : String := optionLine ("      " ++ s.shown) s.summary

/-- The line of an option with a value. -/
def valueLine (env : Environment) (o : ValueOption) : String :=
  optionLine ("      " ++ o.shown) <|
    o.summary ++ " [env: " ++ o.variableName ++ "=" ++ (env o.variableName).getD "" ++
      "] [default: " ++ o.default ++ "]"

/-- The lines of the options that every command has. -/
def commonOptions (env : Environment) : String :=
  String.join [valueLine env .webhookAddress, valueLine env .tlsCertificate,
    valueLine env .tlsKey, switchLine .noWebhook, switchLine .noInstall,
    valueLine env .serviceName, optionLine "  -h, --help" "Print help"]

/-- The help about the program. -/
def programText (env : Environment) : String :=
  String.join [programSummary, "\n\nUsage: ", programName, " [OPTIONS] [COMMAND]\n\n",
    "Commands:\n  run   ", runSummary, "\n  help  ", helpSummary, "\n\nOptions:\n",
    switchLine .definitions, commonOptions env, optionLine "  -V, --version" "Print version"]

/-- The help about the command `run`. -/
def runText (env : Environment) : String :=
  String.join [runSummary, "\n\nUsage: ", programName, " run [OPTIONS]\n\nOptions:\n",
    commonOptions env]

/-- The help about the command `help`. -/
def helpText : String :=
  String.join [helpSummary, "\n\nUsage: ", programName, " help [COMMAND]...\n\n",
    "Arguments:\n  [COMMAND]...  Print help for the subcommand(s)\n"]

/-- The help about a topic. -/
def text (env : Environment) : HelpTopic → String
  | .program => programText env
  | .run => runText env
  | .help => helpText

end CredentialOperator.Help
