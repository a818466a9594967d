import CredentialOperator.Grant.Codec
import CredentialOperator.Proofs.Json.Records
import CredentialOperator.Proofs.Time.Rfc3339

/-!
# Statuses of grants in store

What a status becomes that is merged into a stored grant and read again.  A status is
`Storable` if its instants have texts and its generations fit; such a status is read again as
it was written, and what was read is storable.

A status that is written says nothing of the parts that it does not have, so that a merge keeps
those of the status before: `GrantStatus.laidOver` is what the two make.  `Grant.ofJson?_merge` says
that this is what the stored grant is read as.
-/

namespace CredentialOperator

/-- A number that fits into sixty-four bits. -/
def FitsInt64 (n : Int) : Prop := -0x8000000000000000 ≤ n ∧ n < 0x8000000000000000

lemma Json.int64?_ofInt {n : Int} (h : FitsInt64 n) : Json.int64? (Json.ofInt n) = some n :=
  if_pos h

lemma Json.fits_of_int64? {j : Json} {n : Int} (h : Json.int64? j = some n) : FitsInt64 n := by
  unfold Json.int64? Json.integer? at h
  split at h
  next =>
    obtain ⟨bounds, h⟩ := Option.ite_none_right_eq_some.1 h
    exact Option.some.inj h ▸ bounds
  next => cases h

/-! ## Conditions -/

namespace Condition

/-- A condition can be stored if its instant has a text and its generation fits. -/
structure Storable (c : Condition) : Prop where
  /-- The instant has a text. -/
  time : c.lastTransitionTime.OnCalendar
  /-- The generation fits. -/
  generation : ∀ n, c.observedGeneration = some n → FitsInt64 n

lemma timestamp?_timestampJson {t : Timestamp} (h : t.OnCalendar) :
    timestamp? (timestampJson t) = some t := by
  have read := Timestamp.parse?_render h
  simpa [timestamp?, timestampJson, Json.named?, Json.asString?] using read

lemma onCalendar_of_timestamp? {j : Json} {t : Timestamp} (h : timestamp? j = some t) :
    t.OnCalendar := by
  obtain ⟨s, -, read⟩ := Option.bind_eq_some_iff.1 h
  exact Timestamp.onCalendar_of_parse? read

/-- A storable condition is read as it was written. -/
lemma ofJson?_toJson {c : Condition} (h : c.Storable) : ofJson? c.toJson = some c := by
  obtain ⟨type, status, reason, message, time, generation⟩ := c
  have time_read : timestamp? (timestampJson time) = some time := timestamp?_timestampJson h.time
  have status_read : Json.named? ConditionStatus.ofText? (.string status.text) = some status :=
    ConditionStatus.ofText?_text status
  cases generation with
  | none =>
    simp [ofJson?, toJson, Json.asObject?, Json.required, Json.optional, Json.single?,
      Json.occurrences_append, Json.occurrences_entry, Json.occurrences_optionalEntry,
      Json.string?, Json.asString?, time_read, status_read]
  | some n =>
    have generation_read : Json.nullable? Json.int64? (Json.ofInt n) = some (some n) := by
      rw [Json.nullable?_of_ne (by simp [Json.ofInt]), Json.int64?_ofInt (h.generation n rfl)]
      rfl
    simp [ofJson?, toJson, Json.asObject?, Json.required, Json.optional, Json.single?,
      Json.occurrences_append, Json.occurrences_entry, Json.occurrences_optionalEntry,
      Json.string?, Json.asString?, time_read, status_read, generation_read]

/-- A condition that was read is storable. -/
lemma storable_of_ofJson? {j : Json} {c : Condition} (h : ofJson? j = some c) : c.Storable := by
  simp only [ofJson?, Option.bind_eq_bind, Option.bind_eq_some_iff, Option.some.injEq] at h
  obtain ⟨fields, -, type, -, status, -, reason, -, message, -, time, time_read, generation,
    generation_read, rfl⟩ := h
  refine ⟨?_, ?_⟩
  · obtain ⟨i, read⟩ := Json.exists_of_required time_read
    exact onCalendar_of_timestamp? read
  · rintro n rfl
    obtain ⟨i, read⟩ := Json.exists_of_optional generation_read
    exact Json.fits_of_int64? read

end Condition

/-! ## References -/

/-- A reference is read from any record in which its parts were set. -/
lemma ArtifactReference.ofJson?_merged (target : Fields) (name : String)
    (a : ArtifactReference) : ofJson? (Json.merged target name a.toJson) = some a := by
  -- the parts are texts, so that the old ones are replaced and not merged
  have set : ∀ (fields : Fields) (n m : String) (v : String),
      Json.occurrences (Json.mergeFields fields (Json.entry n (.string v))) m =
        if n = m then [.string v] else Json.occurrences fields m := by
    intro fields n m v
    rw [Json.occurrences_merge_entry (by simp), Json.merged_of_not_object rfl]
  simp [toJson, Json.merged, Json.mergePatch, Json.mergeFields_append, ofJson?, Json.asObject?,
    Json.required, Json.single?, set, Json.string?, Json.asString?]

/-! ## Statuses -/

namespace GrantStatus

/-- A status can be stored if its instants have texts and its generations fit. -/
structure Storable (s : GrantStatus) : Prop where
  /-- The conditions can be stored. -/
  conditions : ∀ c ∈ s.conditions, c.Storable
  /-- The date of the last rotation has a text. -/
  last : ∀ t, s.lastRotation = some t → t.OnCalendar
  /-- The date of the next rotation has a text. -/
  next : ∀ t, s.nextRotation = some t → t.OnCalendar

/-- A status laid over another, which shows where the first has nothing. -/
def laidOver (s prior : GrantStatus) : GrantStatus where
  conditions := if s.conditions = [] then prior.conditions else s.conditions
  secretRef := s.secretRef.or prior.secretRef
  lastRotation := s.lastRotation.or prior.lastRotation
  nextRotation := s.nextRotation.or prior.nextRotation
  grantedCapabilities :=
    if s.grantedCapabilities = [] then prior.grantedCapabilities else s.grantedCapabilities

/-- A status is read field by field. -/
lemma ofJson?_eq_some {fields : Fields} {s : GrantStatus} :
    ofJson? (.object fields) = some s ↔
      Json.defaulted fields "conditions" [] (Json.list? Condition.ofJson?) = some s.conditions ∧
      Json.optional fields "secretRef" ArtifactReference.ofJson? = some s.secretRef ∧
      Json.optional fields "lastRotation" Condition.timestamp? = some s.lastRotation ∧
      Json.optional fields "nextRotation" Condition.timestamp? = some s.nextRotation ∧
      Json.defaulted fields "grantedCapabilities" [] Json.strings? =
        some s.grantedCapabilities := by
  simp only [ofJson?, Json.asObject?, Option.bind_eq_bind, Option.bind_some,
    Option.bind_eq_some_iff, Option.some.injEq]
  constructor
  · rintro ⟨_, h₁, _, h₂, _, h₃, _, h₄, _, h₅, rfl⟩
    exact ⟨h₁, h₂, h₃, h₄, h₅⟩
  · rintro ⟨h₁, h₂, h₃, h₄, h₅⟩
    exact ⟨_, h₁, _, h₂, _, h₃, _, h₄, _, h₅, rfl⟩

/-- Only a record is read as a status. -/
lemma object_of_ofJson? {j : Json} {s : GrantStatus} (h : ofJson? j = some s) :
    ∃ fields, j = .object fields := by
  obtain ⟨fields, object, -⟩ := Option.bind_eq_some_iff.1 h
  exact ⟨fields, Json.eq_object_of_asObject? object⟩

/-- A status that was read is storable. -/
lemma storable_of_ofJson? {j : Json} {s : GrantStatus} (h : ofJson? j = some s) :
    s.Storable := by
  obtain ⟨fields, rfl⟩ := object_of_ofJson? h
  obtain ⟨conditions, -, last, next, -⟩ := ofJson?_eq_some.1 h
  refine ⟨?_, ?_, ?_⟩
  · intro c hc
    obtain ⟨i, read⟩ := Json.exists_of_defaulted_list conditions c hc
    exact Condition.storable_of_ofJson? read
  · intro t ht
    obtain ⟨i, read⟩ := Json.exists_of_optional (ht ▸ last)
    exact Condition.onCalendar_of_timestamp? read
  · intro t ht
    obtain ⟨i, read⟩ := Json.exists_of_optional (ht ▸ next)
    exact Condition.onCalendar_of_timestamp? read

lemma storable_empty : Storable {} := by
  refine ⟨?_, ?_, ?_⟩ <;> simp

/-- The fields of a status as they are written. -/
def fields (s : GrantStatus) : Fields :=
  Json.entries "conditions" Condition.toJson s.conditions ++
  Json.optionalEntry "secretRef" ArtifactReference.toJson s.secretRef ++
  Json.optionalEntry "lastRotation" Condition.timestampJson s.lastRotation ++
  Json.optionalEntry "nextRotation" Condition.timestampJson s.nextRotation ++
  Json.entries "grantedCapabilities" .string s.grantedCapabilities

lemma toJson_eq (s : GrantStatus) : s.toJson = .object s.fields := rfl

/-- A storable status that is merged into another is read as laid over it. -/
lemma ofJson?_merge {target : Fields} {s prior : GrantStatus} (hs : s.Storable)
    (read : ofJson? (.object target) = some prior) :
    ofJson? (.object (Json.mergeFields target s.fields)) = some (s.laidOver prior) := by
  obtain ⟨conditions, secretRef, last, next, granted⟩ := ofJson?_eq_some.1 read
  have time : ∀ t, Condition.timestampJson t ≠ .null := by simp [Condition.timestampJson]
  have reference : ∀ a, ArtifactReference.toJson a ≠ .null := by simp [ArtifactReference.toJson]
  -- each field of the merged record is that of the status, if it is written, else the old one
  have set_time : ∀ (o : Option Timestamp) (fields : Fields) (n m : String),
      Json.occurrences (Json.mergeFields fields
        (Json.optionalEntry n Condition.timestampJson o)) m =
        if n = m ∧ o.isSome then (o.map Condition.timestampJson).toList
        else Json.occurrences fields m := by
    intro o fields n m
    have plain : ∀ t, (Condition.timestampJson t).asObject? = none := fun _ => rfl
    simp [Json.occurrences_merge_optionalEntry time, Json.merged_of_not_object (plain _)]
  rw [ofJson?_eq_some]
  refine ⟨?_, ?_, ?_, ?_, ?_⟩
  · refine Json.defaulted_of_merged Condition.toJson ?_
      (fun c hc => Condition.ofJson?_toJson (hs.conditions c hc)) conditions
    simp [fields, Json.mergeFields_append, Json.occurrences_merge_entries, set_time,
      Json.occurrences_merge_optionalEntry reference]
  · let before := Json.mergeFields target (Json.entries "conditions" Condition.toJson s.conditions)
    refine Json.optional_of_merged (fun a => Json.merged before "secretRef" a.toJson) ?_
      (fun a _ => ⟨by simp [ArtifactReference.toJson, Json.merged, Json.mergePatch],
        ArtifactReference.ofJson?_merged before "secretRef" a⟩) secretRef
    simp [fields, Json.mergeFields_append, Json.occurrences_merge_entries, set_time,
      Json.occurrences_merge_optionalEntry reference, before]
  · refine Json.optional_of_merged Condition.timestampJson ?_
      (fun t ht => ⟨time t, Condition.timestamp?_timestampJson (hs.last t ht)⟩) last
    simp [fields, Json.mergeFields_append, Json.occurrences_merge_entries, set_time,
      Json.occurrences_merge_optionalEntry reference]
  · refine Json.optional_of_merged Condition.timestampJson ?_
      (fun t ht => ⟨time t, Condition.timestamp?_timestampJson (hs.next t ht)⟩) next
    simp [fields, Json.mergeFields_append, Json.occurrences_merge_entries, set_time,
      Json.occurrences_merge_optionalEntry reference]
  · refine Json.defaulted_of_merged .string ?_ (fun _ _ => rfl) granted
    simp [fields, Json.mergeFields_append, Json.occurrences_merge_entries, set_time,
      Json.occurrences_merge_optionalEntry reference]

end GrantStatus

/-! ## Grants -/

/-- The generation in metadata is read leniently. -/
lemma Metadata.generation_of_ofJson? {j : Json} {m : Metadata} (h : ofJson? j = some m) :
    ∃ fields, Json.lenient fields "generation" Json.int64? = some m.generation := by
  obtain ⟨fields, -, h⟩ := Option.bind_eq_some_iff.1 h
  -- the name, its beginning, the namespace and the identifier stand before it
  iterate 4 obtain ⟨_, -, h⟩ := Option.bind_eq_some_iff.1 h
  obtain ⟨generation, read, h⟩ := Option.bind_eq_some_iff.1 h
  iterate 7 obtain ⟨_, -, h⟩ := Option.bind_eq_some_iff.1 h
  obtain rfl := Option.some.inj h
  exact ⟨fields, read⟩

/-- The generation of metadata that were read fits. -/
lemma Metadata.fits_of_ofJson? {j : Json} {m : Metadata} (h : ofJson? j = some m) :
    ∀ n, m.generation = some n → FitsInt64 n := by
  intro n hn
  obtain ⟨fields, read⟩ := Metadata.generation_of_ofJson? h
  obtain ⟨i, read⟩ := Json.exists_of_lenient (hn ▸ read)
  exact Json.fits_of_int64? read

namespace Grant

/-- A grant is read field by field. -/
lemma ofJson?_eq_some {fields : Fields} {g : Grant} :
    ofJson? (.object fields) = some g ↔
      Json.required fields "metadata" Metadata.ofJson? = some g.metadata ∧
      Json.required fields "spec" GrantSpec.ofJson? = some g.spec ∧
      Json.optional fields "status" GrantStatus.ofJson? = some g.status := by
  simp only [ofJson?, Json.asObject?, Option.bind_eq_bind, Option.bind_some,
    Option.bind_eq_some_iff, Option.some.injEq]
  constructor
  · rintro ⟨_, h₁, _, h₂, _, h₃, rfl⟩
    exact ⟨h₁, h₂, h₃⟩
  · rintro ⟨h₁, h₂, h₃⟩
    exact ⟨_, h₁, _, h₂, _, h₃, rfl⟩

/-- Only a record is read as a grant. -/
lemma object_of_ofJson? {j : Json} {g : Grant} (h : ofJson? j = some g) :
    ∃ fields, j = .object fields := by
  obtain ⟨fields, object, -⟩ := Option.bind_eq_some_iff.1 h
  exact ⟨fields, Json.eq_object_of_asObject? object⟩

/-- The generation of a grant that was read fits. -/
lemma fits_of_ofJson? {j : Json} {g : Grant} (h : ofJson? j = some g) :
    ∀ n, g.metadata.generation = some n → FitsInt64 n := by
  obtain ⟨fields, rfl⟩ := object_of_ofJson? h
  obtain ⟨i, metadata⟩ := Json.exists_of_required (ofJson?_eq_some.1 h).1
  exact Metadata.fits_of_ofJson? metadata

/-- The status of a grant that was read is storable. -/
lemma storable_of_ofJson? {j : Json} {g : Grant} (h : ofJson? j = some g) :
    g.statusOrEmpty.Storable := by
  obtain ⟨fields, rfl⟩ := object_of_ofJson? h
  have status := (ofJson?_eq_some.1 h).2.2
  cases hs : g.status with
  | none => simpa [statusOrEmpty, hs] using GrantStatus.storable_empty
  | some s =>
    obtain ⟨i, read⟩ := Json.exists_of_optional (hs ▸ status)
    simpa [statusOrEmpty, hs] using GrantStatus.storable_of_ofJson? read

/-- A storable status that is merged into a stored grant is read as laid over the one before,
and nothing else of the grant changes. -/
theorem ofJson?_merge {stored : Json} {g : Grant} {s : GrantStatus}
    (read : ofJson? stored = some g) (hs : s.Storable) :
    ofJson? (stored.mergePatch (.object (Json.entry "status" s.toJson))) =
      some { g with status := some (s.laidOver g.statusOrEmpty) } := by
  obtain ⟨fields, rfl⟩ := object_of_ofJson? read
  obtain ⟨metadata, spec, status⟩ := ofJson?_eq_some.1 read
  have before : GrantStatus.ofJson?
      (.object (((Json.lookup fields "status").getD .null).asObject?.getD [])) =
        some g.statusOrEmpty :=
    Json.record_of_optional status (fun _ _ => GrantStatus.object_of_ofJson?) rfl
  have present : Json.object s.fields ≠ .null := by simp
  -- the patch names the status alone, so that the metadata and the request stay
  rw [GrantStatus.toJson_eq, Json.mergePatch_object, ofJson?_eq_some]
  refine ⟨?_, ?_, ?_⟩
  · rw [Json.required_merge_other present (by decide), metadata]
  · rw [Json.required_merge_other present (by decide), spec]
  · rw [Json.optional_merge_self, GrantStatus.ofJson?_merge hs before]
    rfl

end Grant

end CredentialOperator
