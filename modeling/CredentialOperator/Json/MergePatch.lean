import CredentialOperator.Json.Basic

/-! # Merge patches

The effect of a merge patch: a field that the patch leaves out is kept, `null` deletes one,
an object is merged into the old value, and every other value, lists included, takes the
place of the old one.
-/

namespace CredentialOperator.Json

/-- Removes a field, every occurrence of it. -/
def erase (fields : Fields) (name : String) : Fields :=
  match fields with
  | [] => []
  | (n, v) :: rest => if n = name then erase rest name else (n, v) :: erase rest name

/-- Sets a field, in its old place if there is one. -/
def put (fields : Fields) (name : String) (value : Json) : Fields :=
  match fields with
  | [] => [(name, value)]
  | (n, v) :: rest =>
    if n = name then (name, value) :: erase rest name else (n, v) :: put rest name value

mutual

/-- The value that a merge patch makes of another. -/
def mergePatch (target : Json) : Json → Json
  | .object fields => .object (mergeFields (target.asObject?.getD []) fields)
  | patch => patch

/-- The fields that the fields of a merge patch make of others. -/
def mergeFields (target : Fields) : List (String × Json) → Fields
  | [] => target
  | (n, .null) :: rest => mergeFields (erase target n) rest
  | (n, v) :: rest =>
    mergeFields (put target n (mergePatch ((lookup target n).getD .null) v)) rest

end

theorem lookup_erase (fields : Fields) (name other : String) :
    lookup (erase fields name) other = if name = other then none else lookup fields other := by
  induction fields with
  | nil => simp [erase]
  | cons f rest ih =>
    obtain ⟨n, v⟩ := f
    by_cases h : n = name
    · subst h
      by_cases ho : n = other
      · subst ho
        simpa [erase] using ih
      · simp [erase, lookup, ih, ho]
    · by_cases ho : name = other
      · subst ho
        simp [erase, lookup, ih, h]
      · simp [erase, lookup, ih, h, ho]

theorem lookup_put (fields : Fields) (name : String) (value : Json) (other : String) :
    lookup (put fields name value) other =
      if name = other then some value else lookup fields other := by
  induction fields with
  | nil => simp [put, lookup]
  | cons f rest ih =>
    obtain ⟨n, v⟩ := f
    by_cases h : n = name
    · subst h
      by_cases ho : n = other <;> simp [put, lookup, lookup_erase, ho]
    · by_cases ho : name = other
      · subst ho
        simp [put, lookup, ih, h]
      · simp [put, lookup, ih, h, ho]

end CredentialOperator.Json
