import CredentialOperator.Http.Client
import CredentialOperator.Proofs.Grant.StoredStatus

/-!
# What becomes of stored metadata

The metadata of a stored grant are changed by merge patches that name a few of their fields.  The
fields that a patch names are read as it has them, and nothing else of the grant changes
(`Grant.ofJson?_mergeFinalizers`, `Grant.ofJson?_stamped`).
-/

namespace CredentialOperator

namespace Json

variable {α : Type} {fields other : Fields} {name : String} {read : Json → Option α}

lemma lenient_congr (h : occurrences fields name = occurrences other name) :
    lenient fields name read = lenient other name read := by
  simp only [lenient, h]

lemma lenient_of_single {j : Json} (h : occurrences fields name = [j]) :
    lenient fields name read = nullable? read j := by
  cases hr : nullable? read j <;> simp [lenient, h, hr]

/-- What was read leniently is what the last value says, if there is one. -/
lemma last_of_lenient {a : Option α} (h : lenient fields name read = some a) :
    (lookup fields name = none ∧ a = none) ∨
      ∃ j, lookup fields name = some j ∧ nullable? read j = some a := by
  rw [lookup_eq_getLast?]
  obtain ⟨values, mapped, last⟩ := Option.bind_eq_some_iff.1 h
  have last := Option.some.inj last
  rcases List.eq_nil_or_concat (occurrences fields name) with none_given | ⟨init, j, given⟩
  · rw [none_given] at mapped
    obtain rfl : values = [] := by simpa using mapped.symm
    exact .inl ⟨by simp [none_given], last.symm⟩
  · rw [given, List.concat_eq_append, List.mapM_append] at mapped
    obtain ⟨xs, -, mapped⟩ := Option.bind_eq_some_iff.1 mapped
    obtain ⟨ys, mapped_last, mapped⟩ := Option.bind_eq_some_iff.1 mapped
    obtain ⟨y, value, rfl⟩ : ∃ y, nullable? read j = some y ∧ ys = [y] := by
      cases value : nullable? read j with
      | none => simp [value] at mapped_last
      | some y => exact ⟨y, rfl, by simpa [value] using mapped_last.symm⟩
    obtain rfl := Option.some.inj mapped
    refine .inr ⟨j, by simp [given], ?_⟩
    rw [value, ← last]
    simp

/-- Merging an entry keeps the other fields. -/
lemma lenient_merge_other {n : String} {v : Json} (present : v ≠ .null) (different : n ≠ name) :
    lenient (mergeFields fields (entry n v)) name read = lenient fields name read :=
  lenient_congr (by rw [occurrences_merge_entry present, if_neg different])

/-- An entry that is merged and is no object is read as it stands. -/
lemma lenient_merge_self {v : Json} (present : v ≠ .null) (plain : v.asObject? = none) :
    lenient (mergeFields fields (entry name v)) name read = some <$> read v := by
  have alone : occurrences (mergeFields fields (entry name v)) name = [v] := by
    rw [occurrences_merge_entry present, if_pos rfl, merged_of_not_object plain]
  rw [lenient_of_single alone, nullable?_of_ne present]

end Json

namespace Metadata

/-- Metadata are read field by field. -/
lemma ofJson?_eq_some {fields : Fields} {m : Metadata} :
    ofJson? (.object fields) = some m ↔
      Json.lenient fields "name" Json.string? = some m.name ∧
      Json.lenient fields "generateName" Json.string? = some m.generateName ∧
      Json.lenient fields "namespace" Json.string? = some m.ns ∧
      Json.lenient fields "uid" Json.string? = some m.uid ∧
      Json.lenient fields "generation" Json.int64? = some m.generation ∧
      Json.lenient fields "resourceVersion" Json.string? = some m.resourceVersion ∧
      Json.lenient fields "labels" Json.stringMap? = some m.labels ∧
      Json.lenient fields "annotations" Json.stringMap? = some m.annotations ∧
      Json.lenient fields "finalizers" Json.strings? = some m.finalizers ∧
      Json.lenient fields "creationTimestamp" timestamp? = some m.creationTimestamp ∧
      Json.lenient fields "deletionTimestamp" timestamp? = some m.deletionTimestamp ∧
      Json.lenient fields "ownerReferences" (Json.list? OwnerReference.ofJson?) =
        some m.ownerReferences := by
  constructor
  · intro h
    unfold ofJson? at h
    obtain ⟨_, h₀, h⟩ := Option.bind_eq_some_iff.1 h
    obtain rfl := Option.some.inj h₀
    obtain ⟨_, h₁, h⟩ := Option.bind_eq_some_iff.1 h
    obtain ⟨_, h₂, h⟩ := Option.bind_eq_some_iff.1 h
    obtain ⟨_, h₃, h⟩ := Option.bind_eq_some_iff.1 h
    obtain ⟨_, h₄, h⟩ := Option.bind_eq_some_iff.1 h
    obtain ⟨_, h₅, h⟩ := Option.bind_eq_some_iff.1 h
    obtain ⟨_, h₆, h⟩ := Option.bind_eq_some_iff.1 h
    obtain ⟨_, h₇, h⟩ := Option.bind_eq_some_iff.1 h
    obtain ⟨_, h₈, h⟩ := Option.bind_eq_some_iff.1 h
    obtain ⟨_, h₉, h⟩ := Option.bind_eq_some_iff.1 h
    obtain ⟨_, h₁₀, h⟩ := Option.bind_eq_some_iff.1 h
    obtain ⟨_, h₁₁, h⟩ := Option.bind_eq_some_iff.1 h
    obtain ⟨_, h₁₂, h⟩ := Option.bind_eq_some_iff.1 h
    obtain rfl := Option.some.inj h
    exact ⟨h₁, h₂, h₃, h₄, h₅, h₆, h₇, h₈, h₉, h₁₀, h₁₁, h₁₂⟩
  · rintro ⟨h₁, h₂, h₃, h₄, h₅, h₆, h₇, h₈, h₉, h₁₀, h₁₁, h₁₂⟩
    simp only [ofJson?, Json.asObject?, h₁, h₂, h₃, h₄, h₅, h₆, h₇, h₈, h₉, h₁₀, h₁₁, h₁₂,
      Option.bind_eq_bind, Option.bind_some]

variable {fields : Fields} {m : Metadata}

/-- The finalizers of metadata can be set without changing anything else. -/
lemma ofJson?_setFinalizers (read : ofJson? (.object fields) = some m) (fs : List String) :
    ofJson? (.object (Json.mergeFields fields (Json.entry "finalizers" (Json.ofStrings fs)))) =
      some { m with finalizers := some fs } := by
  have present : Json.ofStrings fs ≠ .null := by simp [Json.ofStrings]
  have again : Json.strings? (Json.ofStrings fs) = some fs := Json.list?_map fun _ _ => rfl
  rw [ofJson?_eq_some] at read ⊢
  obtain ⟨h₁, h₂, h₃, h₄, h₅, h₆, h₇, h₈, -, h₁₀, h₁₁, h₁₂⟩ := read
  simp [Json.lenient_merge_other present, Json.lenient_merge_self present rfl, again, h₁, h₂, h₃,
    h₄, h₅, h₆, h₇, h₈, h₁₀, h₁₁, h₁₂]

/-- The version in metadata can be set without changing anything else. -/
lemma ofJson?_setVersion (read : ofJson? (.object fields) = some m) (v : String) :
    ofJson? (.object (Json.mergeFields fields (Json.entry "resourceVersion" (.string v)))) =
      some { m with resourceVersion := some v } := by
  have present : Json.string v ≠ .null := by simp
  rw [ofJson?_eq_some] at read ⊢
  obtain ⟨h₁, h₂, h₃, h₄, h₅, -, h₇, h₈, h₉, h₁₀, h₁₁, h₁₂⟩ := read
  simp [Json.lenient_merge_other present, Json.lenient_merge_self present rfl, Json.string?,
    Json.asString?, h₁, h₂, h₃, h₄, h₅, h₇, h₈, h₉, h₁₀, h₁₁, h₁₂]

end Metadata

/-! ## Versions -/

namespace Json

/-- The version in the metadata of an object. -/
def version? (j : Json) : Option String := do
  let metadata ← j.get? "metadata"
  (← metadata.get? "resourceVersion").asString?

/-- An object as it is stored under a new version. -/
def stamped (v : String) (j : Json) : Json :=
  j.mergePatch (.object (entry "metadata" (.object (entry "resourceVersion" (.string v)))))

lemma get?_eq_lookup (j : Json) (name : String) :
    j.get? name = lookup (j.asObject?.getD []) name := by
  cases j <;> rfl

/-- The value that a field has after a patch of this field alone. -/
lemma get?_merge_entry (j : Json) (name : String) {v : Json} (present : v ≠ .null) :
    (j.mergePatch (.object (entry name v))).get? name =
      some (((j.get? name).getD .null).mergePatch v) := by
  rw [mergePatch, entry, mergeFields_single present, get?, lookup_put, if_pos rfl, merged,
    get?_eq_lookup]

/-- The last entry of a patch counts. -/
lemma get?_merge_last (j : Json) (patch : Fields) (name : String) {v : Json}
    (present : v ≠ .null) (plain : v.asObject? = none) :
    (j.mergePatch (.object (patch ++ entry name v))).get? name = some v := by
  rw [mergePatch, mergeFields_append, entry, mergeFields_single present, get?, lookup_put,
    if_pos rfl, merged_of_not_object plain]

lemma version?_stamped (v : String) (j : Json) : (j.stamped v).version? = some v := by
  have set := get?_merge_last ((j.get? "metadata").getD .null) [] "resourceVersion"
    (v := .string v) (by simp) rfl
  simp only [List.nil_append] at set
  simp [version?, stamped, get?_merge_entry, set, asString?]

lemma version?_finalizersPatch (j : Json) (fs : List String) (v : String) :
    (j.mergePatch (finalizersPatch fs (some v))).version? = some v := by
  have set := get?_merge_last ((j.get? "metadata").getD .null)
    (entry "finalizers" (ofStrings fs)) "resourceVersion" (v := .string v) (by simp) rfl
  have patch : finalizersPatch fs (some v) = .object (entry "metadata"
    (.object (entry "finalizers" (ofStrings fs) ++ entry "resourceVersion" (.string v)))) := rfl
  simp [version?, patch, get?_merge_entry, set, asString?]

end Json

namespace Grant

/-- The metadata of a grant that was read stand in one field, an object. -/
lemma metadata_read {j : Json} {g : Grant} (read : ofJson? j = some g) :
    ∃ fields parts, j = .object fields ∧ Json.occurrences fields "metadata" = [.object parts] ∧
      Metadata.ofJson? (.object parts) = some g.metadata := by
  obtain ⟨fields, rfl⟩ := object_of_ofJson? read
  obtain ⟨i, values, metadata⟩ := Json.single_of_required (ofJson?_eq_some.1 read).1
  obtain ⟨parts, object, -⟩ := Option.bind_eq_some_iff.1 metadata
  obtain rfl := Json.eq_object_of_asObject? object
  exact ⟨fields, parts, rfl, values, metadata⟩

/-- The version of a stored grant is the one that is read. -/
lemma version?_of_ofJson? {j : Json} {g : Grant} (read : ofJson? j = some g) :
    j.version? = g.metadata.resourceVersion := by
  obtain ⟨fields, parts, rfl, values, metadata⟩ := metadata_read read
  have version := (Metadata.ofJson?_eq_some.1 metadata).2.2.2.2.2.1
  have found : Json.lookup fields "metadata" = some (.object parts) := by
    simp [Json.lookup_eq_getLast?, values]
  rcases Json.last_of_lenient version with ⟨missing, none_read⟩ | ⟨i, last, read⟩
  · simp [Json.version?, Json.get?, found, missing, none_read]
  · cases i <;> simp_all [Json.version?, Json.get?, Json.nullable?, Json.string?, Json.asString?]

/-- A patch of the metadata of a grant changes the metadata alone. -/
lemma ofJson?_mergeMetadata {stored : Json} {g : Grant} {patch : Fields} {m : Metadata}
    (read : ofJson? stored = some g)
    (merged : ∀ parts, Metadata.ofJson? (.object parts) = some g.metadata →
      Metadata.ofJson? (.object (Json.mergeFields parts patch)) = some m) :
    ofJson? (stored.mergePatch (.object (Json.entry "metadata" (.object patch)))) =
      some { g with metadata := m } := by
  obtain ⟨fields, parts, rfl, values, metadata⟩ := metadata_read read
  obtain ⟨-, spec, status⟩ := ofJson?_eq_some.1 read
  have found : Json.lookup fields "metadata" = some (.object parts) := by
    simp [Json.lookup_eq_getLast?, values]
  have present : Json.object patch ≠ .null := by simp
  -- the metadata still stand once, and the other fields occur as before
  rw [Json.mergePatch_object, ofJson?_eq_some]
  refine ⟨?_, ?_, ?_⟩
  · rw [Json.required_merge_self, found]
    exact merged parts metadata
  · rw [Json.required_merge_other present (by decide), spec]
  · rw [Json.optional_merge_other present (by decide), status]

/-- The patch of finalizers changes nothing else but the version. -/
lemma ofJson?_mergeFinalizers {stored : Json} {g : Grant} (read : ofJson? stored = some g)
    (fs : List String) (v : String) :
    ofJson? (stored.mergePatch (finalizersPatch fs (some v))) =
      some { g with metadata.finalizers := some fs, metadata.resourceVersion := some v } := by
  refine ofJson?_mergeMetadata read fun parts metadata => ?_
  rw [Json.mergeFields_append]
  exact Metadata.ofJson?_setVersion (Metadata.ofJson?_setFinalizers metadata fs) v

/-- A stored grant gets a new version without any other change. -/
lemma ofJson?_stamped {stored : Json} {g : Grant} (read : ofJson? stored = some g) (v : String) :
    ofJson? (stored.stamped v) = some { g with metadata.resourceVersion := some v } :=
  ofJson?_mergeMetadata read fun _ metadata => Metadata.ofJson?_setVersion metadata v

end Grant

end CredentialOperator
