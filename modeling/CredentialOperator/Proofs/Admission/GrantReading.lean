import CredentialOperator.Admission.GrantRules
import CredentialOperator.Proofs.Admission.PodReading
import CredentialOperator.Proofs.Grant.RoundTrip

/-!
# Grants as they are sent and as they are read

The grant of a request is read twice: as an object of any kind, whose fields are brought into
normal form, and from this as a grant.  Grants are read strictly, so that no field of theirs stands
twice, and reading them is `Steady`: the normal form is read as the value itself.  Of the metadata
only the fractions of seconds are lost on the way (`Grant.read_as_object`).
-/

namespace CredentialOperator

open Json

/-! ## Metadata written and read again -/

namespace Timestamp

/-- The instant without the fraction of its second. -/
def wholeSecond (t : Timestamp) : Timestamp where
  seconds := t.seconds
  nanos := t.nanos / 1000000000 * 1000000000
  nanos_lt := Nat.lt_of_le_of_lt (Nat.div_mul_le_self _ _) t.nanos_lt

lemma renderWith_zero (t : Timestamp) : t.renderWith 0 = t.wholeSecond.render := by
  have whole : t.nanos / 1000000000 * 1000000000 % 1000000000 = 0 := Nat.mul_mod_left _ _
  have leap : 1000000000 ≤ t.nanos / 1000000000 * 1000000000 ↔ 1000000000 ≤ t.nanos := by omega
  simp [render, renderWith, wholeSecond, fractionDigits, renderFraction, whole, leap]

lemma OnCalendar.wholeSecond {t : Timestamp} (h : t.OnCalendar) : t.wholeSecond.OnCalendar := by
  obtain ⟨low, high, leap⟩ := h
  refine ⟨low, high, fun beyond => leap ?_⟩
  have beyond : 1000000000 ≤ t.nanos / 1000000000 * 1000000000 := beyond
  omega

end Timestamp

namespace OwnerReference

lemma ofJson?_toJson (r : OwnerReference) : ofJson? r.toJson = some r := by
  obtain ⟨version, kind, name, uid, controller, blocks⟩ := r
  cases controller <;> cases blocks <;> rfl

end OwnerReference

namespace Metadata

/-- Metadata as they are after they were written: their instants are whole seconds. -/
def rounded (m : Metadata) : Metadata :=
  { m with
    creationTimestamp := m.creationTimestamp.map Timestamp.wholeSecond
    deletionTimestamp := m.deletionTimestamp.map Timestamp.wholeSecond }

lemma timestamp?_timestampJson {t : Timestamp} (h : t.OnCalendar) :
    timestamp? (timestampJson t) = some t.wholeSecond := by
  simp [timestamp?, timestampJson, Json.named?, Json.asString?, Timestamp.renderWith_zero,
    Timestamp.parse?_render h.wholeSecond]

lemma onCalendar_of_timestamp? {j : Json} {t : Timestamp} (h : timestamp? j = some t) :
    t.OnCalendar := by
  obtain ⟨s, -, read⟩ := Option.bind_eq_some_iff.1 h
  exact Timestamp.onCalendar_of_parse? read

/-- A part that was written if there is one is read as what its value says. -/
lemma lenient_of_written {α β : Type} {fields : Fields} {name : String} {write : α → Json}
    {read : Json → Option β} {change : α → β} {o : Option α}
    (given : occurrences fields name = (o.map write).toList)
    (again : ∀ a, o = some a → write a ≠ .null ∧ read (write a) = some (change a)) :
    lenient fields name read = some (o.map change) := by
  cases o with
  | none =>
    have nothing : occurrences fields name = [] := given
    simp [lenient, nothing]
  | some a =>
    have alone : occurrences fields name = [write a] := given
    obtain ⟨present, value⟩ := again a rfl
    rw [lenient_of_single alone, nullable?_of_ne present, value]
    rfl

/-- A part that was written if there is one is read again. -/
lemma lenient_again {α : Type} {fields : Fields} {name : String} {write : α → Json}
    {read : Json → Option α} {o : Option α}
    (given : occurrences fields name = (o.map write).toList)
    (again : ∀ a, o = some a → write a ≠ .null ∧ read (write a) = some a) :
    lenient fields name read = some o := by
  have same : lenient fields name read = some (o.map id) := lenient_of_written given again
  simpa using same

/-- Metadata that were read are read again after they were written, in whole seconds. -/
lemma ofJson?_toJson {j : Json} {m : Metadata} (read : ofJson? j = some m) :
    ofJson? m.toJson = some m.rounded := by
  obtain ⟨parts, object, -⟩ := Option.bind_eq_some_iff.1 read
  obtain rfl := Json.eq_object_of_asObject? object
  have text : ∀ s : String, Json.string s ≠ .null ∧ string? (.string s) = some s :=
    fun s => ⟨by simp, rfl⟩
  have map : ∀ t : StringMap, ofStringMap t ≠ .null ∧ stringMap? (ofStringMap t) = some t :=
    fun t => ⟨by simp [ofStringMap], stringMap?_ofStringMap t⟩
  obtain ⟨-, -, -, -, generation, -, -, -, -, creation, deletion, -⟩ := ofJson?_eq_some.1 read
  have instant : ∀ {name : String} {o : Option Timestamp},
      lenient parts name timestamp? = some o → ∀ t, o = some t →
        timestampJson t ≠ .null ∧ timestamp? (timestampJson t) = some t.wholeSecond := by
    rintro name o given t rfl
    obtain ⟨i, value⟩ := exists_of_lenient given
    exact ⟨by simp [timestampJson], timestamp?_timestampJson (onCalendar_of_timestamp? value)⟩
  have texts : ∀ xs : List String, ofStrings xs ≠ .null ∧ strings? (ofStrings xs) = some xs :=
    fun xs => ⟨by simp [ofStrings], list?_map fun _ _ => rfl⟩
  have number : ∀ n, m.generation = some n → ofInt n ≠ .null ∧ int64? (ofInt n) = some n := by
    intro n given
    rw [given] at generation
    obtain ⟨i, value⟩ := exists_of_lenient generation
    exact ⟨by simp [ofInt], int64?_ofInt (fits_of_int64? value)⟩
  rw [toJson, ofJson?_eq_some]
  dsimp only [rounded]
  refine ⟨lenient_again ?_ fun s _ => text s, lenient_again ?_ fun s _ => text s,
    lenient_again ?_ fun s _ => text s, lenient_again ?_ fun s _ => text s,
    lenient_again ?_ number, lenient_again ?_ fun s _ => text s,
    lenient_again ?_ fun t _ => map t, lenient_again ?_ fun t _ => map t,
    lenient_again ?_ fun xs _ => texts xs, lenient_of_written ?_ (instant creation),
    lenient_of_written ?_ (instant deletion), lenient_again ?_ fun rs _ =>
      ⟨by simp, list?_map fun r _ => OwnerReference.ofJson?_toJson r⟩⟩
  all_goals simp [occurrences_append, occurrences_optionalEntry]

end Metadata

/-! ## Grants -/

/-- A grant that can be read is read as an object of any kind, and from this as the same grant, but
for fractions of seconds in its metadata. -/
theorem Grant.read_as_object {j : Json} {g : Grant} (read : Grant.ofJson? j = some g) :
    ∃ o, DynamicObject.ofJson? j = some o ∧
      Grant.ofJson? o.toJson = some { g with metadata := g.metadata.rounded } := by
  obtain ⟨fields, parts, rfl, alone, metadata⟩ := Grant.metadata_read read
  obtain ⟨-, spec, status⟩ := Grant.ofJson?_eq_some.1 read
  have first : defaulted fields "metadata" {} Metadata.ofJson? = some g.metadata := by
    rw [defaulted_of_single alone, metadata]
  obtain ⟨o, object, same⟩ : ∃ o, DynamicObject.ofJson? (.object fields) = some o ∧
      o.metadata = g.metadata := by
    simp [DynamicObject.ofJson?, asObject?, first]
  refine ⟨o, object, ?_⟩
  obtain ⟨out, written, given⟩ := o.occurrences_toJson
  -- next to its metadata the object has the fields that were sent, each in normal form
  have kept : ∀ name, name ≠ "apiVersion" → name ≠ "kind" → name ≠ "metadata" →
      occurrences out name = occurrences (normalizeFields [] fields) name := by
    intro name version kind other
    rw [given name version kind, if_neg other.symm, List.nil_append,
      occurrences_of_distinct (DynamicObject.data_distinct object),
      DynamicObject.lookup_data object version kind, if_neg other, occurrences_normalize]
  rw [written, Grant.ofJson?_eq_some]
  refine ⟨?_, ?_, ?_⟩
  · have once : occurrences out "metadata" = [g.metadata.toJson] := by
      rw [given _ (by decide) (by decide), if_pos rfl, same,
        occurrences_of_distinct (DynamicObject.data_distinct object),
        DynamicObject.lookup_data object (by decide) (by decide), if_pos rfl]
      rfl
    simpa only [required, single?, once] using Metadata.ofJson?_toJson metadata
  · rw [← GrantSpec.steady_ofJson?.required "spec" fields g.spec spec]
    exact required_congr (kept _ (by decide) (by decide) (by decide))
  · rw [← GrantStatus.steady_ofJson?.optional "status" fields g.status status]
    exact optional_congr (kept _ (by decide) (by decide) (by decide))

end CredentialOperator
