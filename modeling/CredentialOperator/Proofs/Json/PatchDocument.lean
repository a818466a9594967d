import CredentialOperator.Json.Patch
import Mathlib.Tactic.Common

/-!
# Patches read from their documents

A patch is sent as a list of values, one for each operation, in which paths are texts.  What is
read from the texts are the paths that were written: a slash only stands between parts, because
those inside of parts are escaped.
-/

namespace CredentialOperator.Json

/-- Reads the parts of a path that follow on a slash: the first of them, and the others. -/
def readParts : List Char → Option (List Char × List (List Char))
  | [] => some ([], [])
  | '/' :: rest => (readParts rest).map fun p => ([], p.1 :: p.2)
  | '~' :: '0' :: rest => (readParts rest).map fun p => ('~' :: p.1, p.2)
  | '~' :: '1' :: rest => (readParts rest).map fun p => ('/' :: p.1, p.2)
  | '~' :: _ => none
  | c :: rest => (readParts rest).map fun p => (c :: p.1, p.2)

/-- Reads a path. -/
def path? (s : String) : Option Path :=
  match s.toList with
  | [] => some []
  | '/' :: rest => (readParts rest).map fun p => (p.1 :: p.2).map String.ofList
  | _ => none

/-- Reads an operation. -/
def Operation.ofJson? (j : Json) : Option Operation := do
  let path ← path? (← (← j.get? "path").asString?)
  match ← (← j.get? "op").asString? with
  | "add" => some (.add path (← j.get? "value"))
  | "remove" => some (.remove path)
  | "replace" => some (.replace path (← j.get? "value"))
  | _ => none

/-- Carries out the patch that a list of values describes. -/
def patchedBy? (j : Json) (document : List Json) : Option Json := do
  patched? j (← document.mapM Operation.ofJson?)

/-! ## What was written is read -/

lemma readParts_escape (cs rest : List Char) :
    readParts (cs.flatMap escapePart ++ rest) = (readParts rest).map fun p => (cs ++ p.1, p.2) := by
  induction cs with
  | nil => simp
  | cons c cs ih =>
    rw [List.flatMap_cons, List.append_assoc]
    by_cases tilde : c = '~'
    · subst tilde
      simp [escapePart, readParts, ih, Function.comp_def]
    · by_cases slash : c = '/'
      · subst slash
        simp [escapePart, readParts, ih, Function.comp_def]
      · simp [escapePart, readParts, tilde, ih, Function.comp_def]

/-- The characters of a path. -/
def pointerChars (path : Path) : List Char :=
  path.flatMap fun part => '/' :: part.toList.flatMap escapePart

lemma toList_pointer (path : Path) : (pointer path).toList = pointerChars path := by
  induction path with
  | nil => rfl
  | cons part rest ih =>
    rw [pointer, List.map_cons, String.join_cons, String.toList_append, ← pointer, ih]
    simp [pointerChars]

lemma readParts_pointer (part : List Char) (path : Path) :
    readParts (part.flatMap escapePart ++ pointerChars path) =
      some (part, path.map String.toList) := by
  induction path generalizing part with
  | nil =>
    have read := readParts_escape part []
    simpa [pointerChars, readParts] using read
  | cons next rest ih =>
    have first : pointerChars (next :: rest) =
        '/' :: (next.toList.flatMap escapePart ++ pointerChars rest) := by
      simp [pointerChars]
    rw [readParts_escape, first, readParts, ih]
    simp

lemma path?_pointer (path : Path) : path? (pointer path) = some path := by
  rw [path?, toList_pointer]
  cases path with
  | nil => rfl
  | cons part rest =>
    simp only [pointerChars, List.flatMap_cons, List.cons_append]
    rw [← pointerChars, readParts_pointer]
    simp

/-- An operation is read again. -/
lemma Operation.ofJson?_toJson (op : Operation) : ofJson? op.toJson = some op := by
  cases op <;> simp [toJson, ofJson?, get?, lookup, asString?, path?_pointer]

/-- A patch does what its document says. -/
theorem patchedBy?_toJson (j : Json) (patch : Patch) :
    j.patchedBy? (patch.map Operation.toJson) = j.patched? patch := by
  have read : (patch.map Operation.toJson).mapM Operation.ofJson? = some patch := by
    induction patch with
    | nil => rfl
    | cons op rest ih => simp [Operation.ofJson?_toJson, ih]
  rw [patchedBy?, read]
  rfl

end CredentialOperator.Json
