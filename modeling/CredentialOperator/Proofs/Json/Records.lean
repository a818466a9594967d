import CredentialOperator.Json.MergePatch
import CredentialOperator.Json.Record
import Mathlib.Tactic.Common

/-!
# Records and merge patches

Reading a field of a record looks only at the values given for its name, so that a record is
told by its `occurrences`.  The first part says what each way of reading makes of them and that
what was written is read again; the second what the parts of a record, used as a merge patch,
do to the occurrences in the record that they are merged into.
-/

namespace CredentialOperator.Json

variable {α : Type} {fields other : Fields} {name : String} {read : Json → Option α}

/-! ## Reading -/

lemma eq_object_of_asObject? {j : Json} (h : j.asObject? = some fields) : j = .object fields := by
  cases j with
  | object entries => exact congrArg Json.object (Option.some.inj h)
  | _ => cases h

lemma required_congr (h : occurrences fields name = occurrences other name) :
    required fields name read = required other name read := by
  simp only [required, single?, h]

lemma optional_congr (h : occurrences fields name = occurrences other name) :
    optional fields name read = optional other name read := by
  simp only [optional, single?, h]

lemma defaulted_congr {default : α} (h : occurrences fields name = occurrences other name) :
    defaulted fields name default read = defaulted other name default read := by
  simp only [defaulted, single?, h]

lemma required_of_single {j : Json} (h : occurrences fields name = [j]) :
    required fields name read = read j := by
  simp only [required, single?, h]

lemma optional_of_missing (h : occurrences fields name = []) :
    optional fields name read = some none := by
  simp only [optional, single?, h]

lemma optional_of_single {j : Json} (h : occurrences fields name = [j]) :
    optional fields name read = nullable? read j := by
  simp only [optional, single?, h]

lemma defaulted_of_single {default : α} {j : Json} (h : occurrences fields name = [j]) :
    defaulted fields name default read = read j := by
  simp only [defaulted, single?, h]

lemma nullable?_of_ne {j : Json} (h : j ≠ .null) : nullable? read j = some <$> read j := by
  cases j with
  | null => exact absurd rfl h
  | _ => rfl

/-- A list is read again if each of its items is. -/
lemma list?_map {write : α → Json} {xs : List α} (h : ∀ x ∈ xs, read (write x) = some x) :
    list? read (.array (xs.map write)) = some xs := by
  simp only [list?]
  induction xs with
  | nil => rfl
  | cons x xs ih =>
    have hx : read (write x) = some x := h x (by simp)
    have hxs : (xs.map write).mapM read = some xs := ih fun y hy => h y (by simp [hy])
    simp [hx, hxs]

/-- Each item of a list that was read has been read. -/
lemma mem_of_list? {j : Json} {xs : List α} (h : list? read j = some xs) :
    ∀ x ∈ xs, ∃ i, read i = some x := by
  cases j with
  | array items =>
    simp only [list?] at h
    induction items generalizing xs with
    | nil =>
      obtain rfl : xs = [] := by simpa using h.symm
      simp
    | cons i items ih =>
      cases hi : read i with
      | none => simp [hi] at h
      | some a =>
        cases hs : items.mapM read with
        | none => simp [hi, hs] at h
        | some as =>
          obtain rfl : xs = a :: as := by simpa [hi, hs] using h.symm
          intro x hx
          rcases List.mem_cons.1 hx with rfl | hx
          · exact ⟨i, hi⟩
          · exact ih hs x hx
  | _ => simp [list?] at h

lemma single_of_required {a : α} (h : required fields name read = some a) :
    ∃ j, occurrences fields name = [j] ∧ read j = some a := by
  unfold required single? at h
  match values : occurrences fields name with
  | [] => simp [values] at h
  | [j] => exact ⟨j, rfl, by simpa [values] using h⟩
  | j :: k :: rest => simp [values] at h

lemma exists_of_required {a : α} (h : required fields name read = some a) :
    ∃ j, read j = some a := by
  obtain ⟨j, -, value⟩ := single_of_required h
  exact ⟨j, value⟩

lemma exists_of_nullable? {j : Json} {a : α} (h : nullable? read j = some (some a)) :
    read j = some a := by
  cases j with
  | null => cases h
  | _ => simpa [nullable?] using h

lemma exists_of_optional {a : α} (h : optional fields name read = some (some a)) :
    ∃ j, read j = some a := by
  unfold optional at h
  split at h
  next => cases h
  next j _ => exact ⟨j, exists_of_nullable? h⟩
  next => cases h

lemma exists_of_defaulted_list {xs : List α}
    (h : defaulted fields name [] (list? read) = some xs) : ∀ x ∈ xs, ∃ j, read j = some x := by
  unfold defaulted at h
  split at h
  next =>
    obtain rfl := Option.some.inj h
    simp
  next j _ => exact mem_of_list? h
  next => cases h

lemma exists_of_defaulted {default a : α} (h : defaulted fields name default read = some a) :
    a = default ∨ ∃ j, read j = some a := by
  unfold defaulted at h
  split at h
  next => exact .inl (Option.some.inj h).symm
  next j _ => exact .inr ⟨j, h⟩
  next => cases h

lemma exists_of_lenient {a : α} (h : lenient fields name read = some (some a)) :
    ∃ j, read j = some a := by
  obtain ⟨values, mapped, last⟩ := Option.bind_eq_some_iff.1 h
  have last_value : values.getLast? = some (some a) := Option.join_eq_some_iff.1
    (Option.some.inj last)
  obtain ⟨j, value⟩ :=
    mem_of_list? (j := .array (occurrences fields name)) mapped _ (List.mem_of_getLast? last_value)
  exact ⟨j, exists_of_nullable? value⟩

/-- A map of texts is read again. -/
lemma stringMap?_ofStringMap (m : StringMap) : stringMap? (ofStringMap m) = some m := by
  -- reading enters the fields one by one, which is a fold of insertions
  have entered : ∀ (xs : List (String × String)) (acc : StringMap),
      (xs.map fun e => (e.1, Json.string e.2)).foldlM
        (fun m f => (m.insert f.1 ·) <$> string? f.2) acc =
        some (xs.foldl (fun m e => m.insert e.1 e.2) acc) := by
    intro xs
    induction xs with
    | nil => intro acc; rfl
    | cons e xs ih =>
      intro acc
      simpa [string?, asString?] using ih (acc.insert e.1 e.2)
  have same : m.toList.foldl (fun m e => m.insert e.1 e.2) (∅ : StringMap) = m := by
    rw [← Std.ExtTreeMap.ofList_eq_foldl]
    apply Std.ExtTreeMap.ext_getElem?
    intro k
    cases hk : m[k]? with
    | none =>
      apply Std.ExtTreeMap.getElem?_ofList_of_contains_eq_false
      simpa [← Std.ExtTreeMap.mem_iff_contains] using hk
    | some v =>
      exact Std.ExtTreeMap.getElem?_ofList_of_mem Std.ReflCmp.compare_self
        Std.ExtTreeMap.distinct_keys_toList
        (Std.ExtTreeMap.mem_toList_iff_getElem?_eq_some.2 hk)
  simp only [stringMap?, ofStringMap, map?, mapOfFields?]
  rw [entered, same]

/-! ## Merging -/

lemma occurrences_cons (n : String) (v : Json) (rest : Fields) (name : String) :
    occurrences ((n, v) :: rest) name =
      (if n = name then [v] else []) ++ occurrences rest name := by
  by_cases h : n = name <;> simp [occurrences, h]

lemma occurrences_erase (fields : Fields) (n name : String) :
    occurrences (erase fields n) name = if n = name then [] else occurrences fields name := by
  induction fields with
  | nil => simp [erase]
  | cons f rest ih =>
    obtain ⟨m, v⟩ := f
    by_cases hm : m = n
    · subst hm
      simp only [erase, if_pos, ih, occurrences_cons]
      split <;> simp
    · by_cases hn : n = name
      · subst hn
        simp [erase, hm, occurrences_cons, ih]
      · simp [erase, hm, occurrences_cons, ih, hn]

lemma occurrences_put (fields : Fields) (n : String) (v : Json) (name : String) :
    occurrences (put fields n v) name = if n = name then [v] else occurrences fields name := by
  induction fields with
  | nil => simp [put, occurrences_cons]
  | cons f rest ih =>
    obtain ⟨m, w⟩ := f
    by_cases hm : m = n
    · subst hm
      by_cases hn : m = name <;> simp [put, occurrences_cons, occurrences_erase, hn]
    · by_cases hn : n = name
      · subst hn
        simp [put, hm, occurrences_cons, ih]
      · simp [put, hm, occurrences_cons, ih, hn]

/-- The last value given for a name counts. -/
lemma lookup_eq_getLast? (fields : Fields) (name : String) :
    lookup fields name = (occurrences fields name).getLast? := by
  induction fields with
  | nil => rfl
  | cons f rest ih =>
    obtain ⟨n, v⟩ := f
    rw [occurrences_cons, List.getLast?_append, lookup, ih]
    by_cases h : n = name <;> simp [h]

lemma mergePatch_object (target patch : Fields) :
    (object target).mergePatch (.object patch) = .object (mergeFields target patch) := by
  rw [mergePatch]
  rfl

lemma mergeFields_append (target xs ys : Fields) :
    mergeFields target (xs ++ ys) = mergeFields (mergeFields target xs) ys := by
  induction xs generalizing target with
  | nil => simp [mergeFields]
  | cons x xs ih =>
    obtain ⟨n, v⟩ := x
    cases v <;> simp [mergeFields, ih]

/-- The fields that a merge finds in the place of a record that may be missing are read as this
record, or as the empty one. -/
lemma record_of_optional {o : Option α} {empty : α} (h : optional fields name read = some o)
    (strict : ∀ j a, read j = some a → ∃ entries, j = .object entries)
    (nothing : read (.object []) = some empty) :
    read (.object (((lookup fields name).getD .null).asObject?.getD [])) =
      some (o.getD empty) := by
  rw [lookup_eq_getLast?]
  match values : occurrences fields name with
  | [] =>
    rw [optional_of_missing values] at h
    rw [← Option.some.inj h]
    exact nothing
  | [j] =>
    rw [optional_of_single values] at h
    by_cases null : j = .null
    · subst null
      rw [← Option.some.inj h]
      exact nothing
    · rw [nullable?_of_ne null] at h
      obtain ⟨a, read_a, same⟩ := Option.map_eq_some_iff.1 h
      obtain ⟨entries, rfl⟩ := strict j a read_a
      rw [← same]
      exact read_a
  | j :: k :: rest => simp [optional, single?, values] at h

/-- The value that a field of a patch leads to. -/
def merged (target : Fields) (name : String) (patch : Json) : Json :=
  mergePatch ((lookup target name).getD .null) patch

lemma mergeFields_single {v : Json} (hv : v ≠ .null) (target : Fields) (n : String) :
    mergeFields target [(n, v)] = put target n (merged target n v) := by
  cases v with
  | null => exact absurd rfl hv
  | _ => simp [mergeFields, merged]

lemma merged_of_not_object {patch : Json} (h : patch.asObject? = none) (target : Fields)
    (n : String) : merged target n patch = patch := by
  cases patch with
  | object fields => simp [asObject?] at h
  | _ => simp [merged, mergePatch]

/-- Merging an entry sets the field. -/
lemma occurrences_merge_entry {v : Json} (hv : v ≠ .null) (target : Fields) (n name : String) :
    occurrences (mergeFields target (entry n v)) name =
      if n = name then [merged target n v] else occurrences target name := by
  rw [entry, mergeFields_single hv, occurrences_put]

/-- Merging an entry leaves the other fields alone. -/
lemma required_merge_other {v : Json} (hv : v ≠ .null) {n : String} (other : n ≠ name) :
    required (mergeFields fields (entry n v)) name read = required fields name read :=
  required_congr (by rw [occurrences_merge_entry hv, if_neg other])

lemma optional_merge_other {v : Json} (hv : v ≠ .null) {n : String} (other : n ≠ name) :
    optional (mergeFields fields (entry n v)) name read = optional fields name read :=
  optional_congr (by rw [occurrences_merge_entry hv, if_neg other])

/-- Merging a record into a field sets it to what the two records come to. -/
lemma occurrences_merge_record (patch : Fields) :
    occurrences (mergeFields fields (entry name (.object patch))) name =
      [.object (mergeFields (((lookup fields name).getD .null).asObject?.getD []) patch)] := by
  rw [occurrences_merge_entry (by simp), if_pos rfl, merged, mergePatch]

lemma required_merge_self (patch : Fields) :
    required (mergeFields fields (entry name (.object patch))) name read =
      read (.object
        (mergeFields (((lookup fields name).getD .null).asObject?.getD []) patch)) := by
  simp only [required, single?, occurrences_merge_record]

lemma optional_merge_self (patch : Fields) :
    optional (mergeFields fields (entry name (.object patch))) name read =
      some <$> read (.object
        (mergeFields (((lookup fields name).getD .null).asObject?.getD []) patch)) := by
  rw [optional_of_single (occurrences_merge_record patch), nullable?_of_ne (by simp)]

/-- Merging the entry of a list that is left out when empty sets the field or keeps it. -/
lemma occurrences_merge_entries {write : α → Json} (target : Fields) (n : String) (xs : List α)
    (name : String) :
    occurrences (mergeFields target (entries n write xs)) name =
      if n = name ∧ xs ≠ [] then [.array (xs.map write)] else occurrences target name := by
  cases xs with
  | nil => simp [entries, mergeFields]
  | cons x xs =>
    have h := occurrences_merge_entry (v := .array ((x :: xs).map write)) (by simp) target n name
    rw [merged_of_not_object rfl] at h
    simpa [entry, entries] using h

/-- Merging an entry that is left out when absent sets the field or keeps it. -/
lemma occurrences_merge_optionalEntry {write : α → Json} (hw : ∀ a, write a ≠ .null)
    (target : Fields) (n : String) (o : Option α) (name : String) :
    occurrences (mergeFields target (optionalEntry n write o)) name =
      if n = name ∧ o.isSome then (o.map fun a => merged target n (write a)).toList
      else occurrences target name := by
  cases o with
  | none => simp [optionalEntry, mergeFields]
  | some a => simpa [entry, optionalEntry] using occurrences_merge_entry (hw a) target n name

/-- A list that is merged into a record takes the place of the one before unless it is empty. -/
lemma defaulted_of_merged {target : Fields} {xs prior : List α} (write : α → Json)
    (given : occurrences fields name =
      if xs ≠ [] then [.array (xs.map write)] else occurrences target name)
    (again : ∀ x ∈ xs, read (write x) = some x)
    (before : defaulted target name [] (list? read) = some prior) :
    defaulted fields name [] (list? read) = some (if xs = [] then prior else xs) := by
  by_cases empty : xs = []
  · rw [if_neg (not_not_intro empty)] at given
    rw [if_pos empty, defaulted_congr given, before]
  · rw [if_pos empty] at given
    rw [if_neg empty, defaulted_of_single given, list?_map again]

/-- A part that is merged into a record takes the place of the one before if there is one. -/
lemma optional_of_merged {target : Fields} {o prior : Option α} (value : α → Json)
    (given : occurrences fields name =
      if o.isSome then (o.map value).toList else occurrences target name)
    (again : ∀ a, o = some a → value a ≠ .null ∧ read (value a) = some a)
    (before : optional target name read = some prior) :
    optional fields name read = some (o.or prior) := by
  cases o with
  | none =>
    have same : occurrences fields name = occurrences target name := by simpa using given
    rw [optional_congr same, before, Option.none_or]
  | some a =>
    obtain ⟨set, value_read⟩ := again a rfl
    have alone : occurrences fields name = [value a] := by simpa using given
    rw [optional_of_single alone, nullable?_of_ne set, value_read]
    rfl

end CredentialOperator.Json
