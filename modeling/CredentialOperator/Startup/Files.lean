/-! # Files

The files of a directory, as they are found at a path: a path is a list of steps between
slashes, of which empty ones and single dots lead nowhere.
-/

namespace CredentialOperator

/-- Why a file cannot be read. -/
inductive FileFailure where
  /-- There is no such file. -/
  | missing
  /-- A part of the path that should be a directory is a file. -/
  | notDirectory
  /-- The path is that of a directory. -/
  | isDirectory
deriving DecidableEq, Repr

/-- The wording of a failure. -/
def FileFailure.message : FileFailure → String
  | .missing => "No such file or directory (os error 2)"
  | .notDirectory => "Not a directory (os error 20)"
  | .isDirectory => "Is a directory (os error 21)"

/-- The files of the working directory: their names and texts. -/
abbrev Directory : Type := List (String × String)

namespace Directory

/-- The steps of a path between slashes. -/
def steps (cs : List Char) : List (List Char) :=
  match cs with
  | [] => [[]]
  | '/' :: rest => [] :: steps rest
  | c :: rest =>
    match steps rest with
    | [] => [[c]]
    | s :: ss => (c :: s) :: ss

/-- Whether a step stays where it is. -/
def staysThere (step : List Char) : Bool := step = [] || step = ['.']

/-- Reads the file at a path.  Of an absolute path only the root is known. -/
def read (d : Directory) (path : String) : Except FileFailure String :=
  if path.toList.head? = some '/' then
    if (steps path.toList).all staysThere then .error .isDirectory else .error .missing
  else if path.isEmpty then .error .missing
  else
    match (steps path.toList).dropWhile staysThere with
    | [] => .error .isDirectory
    | name :: rest =>
      match d.find? (·.1.toList = name) with
      | none => .error .missing
      | some file => if rest.isEmpty then .ok file.2 else .error .notDirectory

end Directory

end CredentialOperator
