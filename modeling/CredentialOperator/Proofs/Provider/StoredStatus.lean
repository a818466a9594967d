import CredentialOperator.Proofs.Grant.StoredStatus
import CredentialOperator.Proofs.Http.Messages
import CredentialOperator.Provider.Codec

/-!
# Statuses of providers in store

What a status becomes that is merged into a stored provider and read again
(`Provider.ofJson?_merge`).  A storable status is read as it was written, but for its conditions and
the date of the last check, which a merge keeps where the status has none
(`ProviderStatus.laidOver`).  `Request.sends_patchProviderStatus` says which message carries the
status of a provider.
-/

namespace CredentialOperator

/-- A number that fits into thirty-two bits. -/
def FitsInt32 (n : Int) : Prop := -0x80000000 ≤ n ∧ n < 0x80000000

lemma Json.int32?_ofInt {n : Int} (h : FitsInt32 n) : Json.int32? (Json.ofInt n) = some n :=
  if_pos h

lemma Json.fits_of_int32? {j : Json} {n : Int} (h : Json.int32? j = some n) : FitsInt32 n := by
  unfold Json.int32? Json.integer? at h
  split at h
  next =>
    obtain ⟨bounds, h⟩ := Option.ite_none_right_eq_some.1 h
    exact Option.some.inj h ▸ bounds
  next => cases h

/-! ## Statuses -/

namespace ProviderStatus

/-- A status can be stored if its instants have texts and its numbers fit. -/
structure Storable (s : ProviderStatus) : Prop where
  /-- The conditions can be stored. -/
  conditions : ∀ c ∈ s.conditions, c.Storable
  /-- The date of the last check has a text. -/
  checked : ∀ t, s.lastCredentialCheck = some t → t.OnCalendar
  /-- The count fits. -/
  count : FitsInt32 s.grantCount

/-- A status laid over another, which shows where the first has nothing. -/
def laidOver (s prior : ProviderStatus) : ProviderStatus where
  conditions := if s.conditions = [] then prior.conditions else s.conditions
  lastCredentialCheck := s.lastCredentialCheck.or prior.lastCredentialCheck
  grantCount := s.grantCount

/-- Nothing shows through a status that has conditions and the date of a check. -/
lemma laidOver_eq_self {s : ProviderStatus} (prior : ProviderStatus)
    (some_condition : s.conditions ≠ []) (dated : s.lastCredentialCheck.isSome) :
    s.laidOver prior = s := by
  obtain ⟨conditions, checked, count⟩ := s
  obtain ⟨last, rfl⟩ := Option.isSome_iff_exists.1 dated
  exact congrArg (ProviderStatus.mk · _ _) (if_neg some_condition)

/-- A status is read field by field. -/
lemma ofJson?_eq_some {fields : Fields} {s : ProviderStatus} :
    ofJson? (.object fields) = some s ↔
      Json.defaulted fields "conditions" [] (Json.list? Condition.ofJson?) = some s.conditions ∧
      Json.optional fields "lastCredentialCheck" Condition.timestamp? =
        some s.lastCredentialCheck ∧
      Json.defaulted fields "grantCount" 0 Json.int32? = some s.grantCount := by
  simp only [ofJson?, Json.asObject?, Option.bind_eq_bind, Option.bind_some,
    Option.bind_eq_some_iff, Option.some.injEq]
  constructor
  · rintro ⟨_, h₁, _, h₂, _, h₃, rfl⟩
    exact ⟨h₁, h₂, h₃⟩
  · rintro ⟨h₁, h₂, h₃⟩
    exact ⟨_, h₁, _, h₂, _, h₃, rfl⟩

/-- Only a record is read as a status. -/
lemma object_of_ofJson? {j : Json} {s : ProviderStatus} (h : ofJson? j = some s) :
    ∃ fields, j = .object fields := by
  obtain ⟨fields, object, -⟩ := Option.bind_eq_some_iff.1 h
  exact ⟨fields, Json.eq_object_of_asObject? object⟩

lemma storable_empty : Storable {} := by
  refine ⟨by simp, by simp, ?_⟩
  unfold FitsInt32
  decide

/-- A status that was read is storable. -/
lemma storable_of_ofJson? {j : Json} {s : ProviderStatus} (h : ofJson? j = some s) :
    s.Storable := by
  obtain ⟨fields, rfl⟩ := object_of_ofJson? h
  obtain ⟨conditions, checked, count⟩ := ofJson?_eq_some.1 h
  refine ⟨?_, ?_, ?_⟩
  · intro c hc
    obtain ⟨i, read⟩ := Json.exists_of_defaulted_list conditions c hc
    exact Condition.storable_of_ofJson? read
  · intro t ht
    obtain ⟨i, read⟩ := Json.exists_of_optional (ht ▸ checked)
    exact Condition.onCalendar_of_timestamp? read
  · rcases Json.exists_of_defaulted count with zero | ⟨i, read⟩
    · exact zero ▸ storable_empty.count
    · exact Json.fits_of_int32? read

/-- The fields of a status as they are written. -/
def fields (s : ProviderStatus) : Fields :=
  Json.entries "conditions" Condition.toJson s.conditions ++
  Json.optionalEntry "lastCredentialCheck" Condition.timestampJson s.lastCredentialCheck ++
  Json.entry "grantCount" (Json.ofInt s.grantCount)

lemma toJson_eq (s : ProviderStatus) : s.toJson = .object s.fields := rfl

/-- A storable status that is merged into another is read as laid over it. -/
lemma ofJson?_merge {target : Fields} {s prior : ProviderStatus} (hs : s.Storable)
    (read : ofJson? (.object target) = some prior) :
    ofJson? (.object (Json.mergeFields target s.fields)) = some (s.laidOver prior) := by
  obtain ⟨conditions, checked, -⟩ := ofJson?_eq_some.1 read
  have time : ∀ t, Condition.timestampJson t ≠ .null := by simp [Condition.timestampJson]
  have number : Json.ofInt s.grantCount ≠ .null := by simp [Json.ofInt]
  -- each field of the merged record is that of the status, if it is written, else the old one
  have set_count : ∀ (fields : Fields) (m : String), Json.occurrences (Json.mergeFields fields
      (Json.entry "grantCount" (Json.ofInt s.grantCount))) m =
        if "grantCount" = m then [Json.ofInt s.grantCount] else Json.occurrences fields m := by
    intro fields m
    have plain : (Json.ofInt s.grantCount).asObject? = none := rfl
    rw [Json.occurrences_merge_entry number, Json.merged_of_not_object plain]
  have set_time : ∀ (fields : Fields) (m : String), Json.occurrences (Json.mergeFields fields
      (Json.optionalEntry "lastCredentialCheck" Condition.timestampJson s.lastCredentialCheck)) m =
        if "lastCredentialCheck" = m ∧ s.lastCredentialCheck.isSome then
          (s.lastCredentialCheck.map Condition.timestampJson).toList
        else Json.occurrences fields m := by
    intro fields m
    have plain : ∀ t, (Condition.timestampJson t).asObject? = none := fun _ => rfl
    simp [Json.occurrences_merge_optionalEntry time, Json.merged_of_not_object (plain _)]
  rw [ofJson?_eq_some]
  refine ⟨?_, ?_, ?_⟩
  · refine Json.defaulted_of_merged Condition.toJson ?_
      (fun c hc => Condition.ofJson?_toJson (hs.conditions c hc)) conditions
    simp [fields, Json.mergeFields_append, Json.occurrences_merge_entries, set_time, set_count]
  · refine Json.optional_of_merged Condition.timestampJson ?_
      (fun t ht => ⟨time t, Condition.timestamp?_timestampJson (hs.checked t ht)⟩) checked
    simp [fields, Json.mergeFields_append, Json.occurrences_merge_entries, set_time, set_count]
  · have alone : Json.occurrences (Json.mergeFields target s.fields) "grantCount" =
        [Json.ofInt s.grantCount] := by simp [fields, Json.mergeFields_append, set_count]
    rw [Json.defaulted_of_single alone]
    exact Json.int32?_ofInt hs.count

end ProviderStatus

/-! ## Providers -/

namespace Provider

/-- A provider is read field by field. -/
lemma ofJson?_eq_some {fields : Fields} {p : Provider} :
    ofJson? (.object fields) = some p ↔
      Json.required fields "metadata" Metadata.ofJson? = some p.metadata ∧
      Json.required fields "spec" ProviderSpec.ofJson? = some p.spec ∧
      Json.optional fields "status" ProviderStatus.ofJson? = some p.status := by
  simp only [ofJson?, Json.asObject?, Option.bind_eq_bind, Option.bind_some,
    Option.bind_eq_some_iff, Option.some.injEq]
  constructor
  · rintro ⟨_, h₁, _, h₂, _, h₃, rfl⟩
    exact ⟨h₁, h₂, h₃⟩
  · rintro ⟨h₁, h₂, h₃⟩
    exact ⟨_, h₁, _, h₂, _, h₃, rfl⟩

/-- Only a record is read as a provider. -/
lemma object_of_ofJson? {j : Json} {p : Provider} (h : ofJson? j = some p) :
    ∃ fields, j = .object fields := by
  obtain ⟨fields, object, -⟩ := Option.bind_eq_some_iff.1 h
  exact ⟨fields, Json.eq_object_of_asObject? object⟩

/-- The generation of a provider that was read fits. -/
lemma fits_of_ofJson? {j : Json} {p : Provider} (h : ofJson? j = some p) :
    ∀ n, p.metadata.generation = some n → FitsInt64 n := by
  obtain ⟨fields, rfl⟩ := object_of_ofJson? h
  obtain ⟨i, metadata⟩ := Json.exists_of_required (ofJson?_eq_some.1 h).1
  exact Metadata.fits_of_ofJson? metadata

/-- The status of a provider that was read is storable. -/
lemma storable_of_ofJson? {j : Json} {p : Provider} (h : ofJson? j = some p) :
    (p.status.getD {}).Storable := by
  obtain ⟨fields, rfl⟩ := object_of_ofJson? h
  have status := (ofJson?_eq_some.1 h).2.2
  cases hs : p.status with
  | none => exact ProviderStatus.storable_empty
  | some s =>
    obtain ⟨i, read⟩ := Json.exists_of_optional (hs ▸ status)
    exact ProviderStatus.storable_of_ofJson? read

/-- A storable status that is merged into a stored provider is read as laid over the one before,
and nothing else of the provider changes. -/
theorem ofJson?_merge {stored : Json} {p : Provider} {s : ProviderStatus}
    (read : ofJson? stored = some p) (hs : s.Storable) :
    ofJson? (stored.mergePatch (.object (Json.entry "status" s.toJson))) =
      some { p with status := some (s.laidOver (p.status.getD {})) } := by
  obtain ⟨fields, rfl⟩ := object_of_ofJson? read
  obtain ⟨metadata, spec, status⟩ := ofJson?_eq_some.1 read
  have before : ProviderStatus.ofJson?
      (.object (((Json.lookup fields "status").getD .null).asObject?.getD [])) =
        some (p.status.getD {}) :=
    Json.record_of_optional status (fun _ _ => ProviderStatus.object_of_ofJson?) rfl
  have present : Json.object s.fields ≠ .null := by simp
  -- the patch names the status alone, so that the metadata and the declaration stay
  rw [ProviderStatus.toJson_eq, Json.mergePatch_object, ofJson?_eq_some]
  refine ⟨?_, ?_, ?_⟩
  · rw [Json.required_merge_other present (by decide), metadata]
  · rw [Json.required_merge_other present (by decide), spec]
  · rw [Json.optional_merge_self, ProviderStatus.ofJson?_merge hs before]
    rfl

end Provider

/-- The status of a provider is carried by one message, a merge patch of its status alone. -/
theorem Request.sends_patchProviderStatus {name : String} {s : ProviderStatus} {m : HttpMessage} :
    (Request.patchProviderStatus name s).converse.run.Sends m ↔
      name.isEmpty = false ∧
        (HttpMessage.merging (Paths.provider name ++ "/status") (statusPatch s.toJson)).sent? =
          some m := by
  unfold Request.converse
  rw [Conversation.sends_bind (by simp [Exchange.Sends]), Conversation.sends_merge, statusPatch]

end CredentialOperator
