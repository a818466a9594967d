import CredentialOperator.Startup.Run

/-! # The program

Reads the arguments and the environment, and writes what a start of the operator writes.  No
cluster can be reached from here, so that a run ends when it would connect to one.
-/

/-- The program. -/
def main (arguments : List String) : IO UInt32 := do
  let values ← CredentialOperator.variableNames.filterMapM fun name => do
    pure ((← IO.getEnv name).map fun value => (name, value))
  let host : CredentialOperator.Host := { environment := fun name => List.lookup name values }
  let outcome := CredentialOperator.runProgram host arguments
  IO.print outcome.outputText
  IO.eprint outcome.errorText
  pure outcome.exitCode.toUInt32
