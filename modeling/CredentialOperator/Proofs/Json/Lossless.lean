import CredentialOperator.Proofs.Grant.StoredStatus
import CredentialOperator.Proofs.Json.Steady

/-!
# Values that survive being written

A writer and a reader are `Lossless` together if every value that was read is read again from what
is written for it.  Only values that were read count: an instant that no calendar shows, or a number
of more than sixty-four bits, could be written but not read.

There is one law for each sort of plain value, and one for each way in which a value can stand in a
record: always, only if there is one, as a list that is left out when empty, or with a default in
its place.  Each of them needs to know only what is written under the name of the field, and is a law
of the values that are read again (`Restored`), wherever they come from.
-/

namespace CredentialOperator.Json

variable {α : Type}

/-! ## Values that are read again -/

/-- A value is read again from what is written for it. -/
structure Restored (write : α → Json) (read : Json → Option α) (a : α) : Prop where
  /-- It is not written as `null`, which could be taken for a missing value. -/
  present : write a ≠ .null
  /-- It is read again. -/
  again : read (write a) = some a

lemma restored_string {s : String} : Restored .string string? s := ⟨Json.noConfusion, rfl⟩

namespace Restored

variable {write : α → Json} {read : Json → Option α} {a : α} {out : Fields} {name : String}

/-- A field that must stand. -/
lemma required (h : Restored write read a) (written : occurrences out name = [write a]) :
    Json.required out name read = some a := by
  rw [required_of_single written, h.again]

/-- A field that is left out when there is no value. -/
lemma optional {o : Option α} (h : ∀ a, o = some a → Restored write read a)
    (written : occurrences out name = (o.map write).toList) :
    Json.optional out name read = some o := by
  cases o with
  | none => exact optional_of_missing written
  | some a =>
    have restored := h a rfl
    rw [optional_of_single written, nullable?_of_ne restored.present, restored.again]
    rfl

/-- A field with a default, which is written even where it was not given. -/
lemma defaulted (h : Restored write read a) {default : α}
    (written : occurrences out name = [write a]) :
    Json.defaulted out name default read = some a := by
  rw [defaulted_of_single written, h.again]

/-- A list that is left out when empty. -/
lemma entries {xs : List α} (h : ∀ x ∈ xs, Restored write read x)
    (written : occurrences out name = if xs ≠ [] then [.array (xs.map write)] else []) :
    Json.defaulted out name [] (list? read) = some xs := by
  by_cases empty : xs = []
  · subst empty
    simp only [Json.defaulted, single?, show occurrences out name = [] from written]
  · rw [if_pos empty] at written
    rw [defaulted_of_single written]
    exact list?_map fun x hx => (h x hx).again

/-- A record is written and read field by field. -/
lemma record {write : α → Fields} {read : Fields → Option α} (h : read (write a) = some a) :
    Restored (fun a => .object (write a)) (fun j => j.asObject?.bind read) a :=
  ⟨Json.noConfusion, h⟩

end Restored

/-! ## Writers and readers -/

/-- What was read is read again from what is written for it. -/
structure Lossless (write : α → Json) (read : Json → Option α) : Prop where
  /-- Nothing is written as `null`, which could be taken for a missing value. -/
  present : ∀ a, write a ≠ .null
  /-- A value that was read is read again. -/
  again : ∀ j a, read j = some a → read (write a) = some a

/-! ## Plain values -/

lemma lossless_string : Lossless .string string? := ⟨fun _ => Json.noConfusion, fun _ _ _ => rfl⟩

lemma lossless_bool : Lossless .bool bool? := ⟨fun _ => Json.noConfusion, fun _ _ _ => rfl⟩

lemma lossless_named {text : α → String} {ofText? : String → Option α}
    (reads : ∀ a, ofText? (text a) = some a) :
    Lossless (fun a => .string (text a)) (named? ofText?) :=
  ⟨fun _ => Json.noConfusion, fun _ a _ => reads a⟩

lemma lossless_timestamp : Lossless Condition.timestampJson Condition.timestamp? :=
  ⟨fun _ => Json.noConfusion, fun _ _ h =>
    Condition.timestamp?_timestampJson (Condition.onCalendar_of_timestamp? h)⟩

lemma lossless_stringMap : Lossless ofStringMap stringMap? :=
  ⟨fun _ => Json.noConfusion, fun _ m _ => stringMap?_ofStringMap m⟩

/-- A whole number that was read lies within the bounds, and so is read again. -/
lemma integer?_ofInt {lo hi n : Int} {j : Json} (h : integer? lo hi j = some n) :
    integer? lo hi (ofInt n) = some n := by
  unfold integer? at h
  split at h
  next =>
    obtain ⟨bounds, h⟩ := Option.ite_none_right_eq_some.1 h
    exact Option.some.inj h ▸ if_pos bounds
  next => cases h

lemma lossless_integer {lo hi : Int} : Lossless ofInt (integer? lo hi) :=
  ⟨fun _ => Json.noConfusion, fun _ _ h => integer?_ofInt h⟩

lemma lossless_nat64 : Lossless ofNat nat64? := by
  refine ⟨fun _ => Json.noConfusion, fun j n h => ?_⟩
  obtain ⟨m, read, rfl⟩ := Option.map_eq_some_iff.1 h
  have again := integer?_ofInt read
  -- the number is not negative, so that it is its own natural number
  have natural : ((m.toNat : Nat) : Int) = m := by
    refine Int.toNat_of_nonneg ?_
    unfold integer? at again
    exact (Option.ite_none_right_eq_some.1 again).1.1
  have same : ofNat m.toNat = ofInt m := congrArg (fun k => Json.number (.integer k)) natural
  rw [nat64?, same, again]
  rfl

/-! ## Fields -/

namespace Lossless

variable {write : α → Json} {read : Json → Option α} {fields out : Fields} {name : String}

/-- What was read is restored. -/
lemma restored (h : Lossless write read) {j : Json} {a : α} (given : read j = some a) :
    Restored write read a :=
  ⟨h.present a, h.again j a given⟩

lemma required (h : Lossless write read) {a : α} (before : required fields name read = some a)
    (written : occurrences out name = [write a]) : Json.required out name read = some a := by
  obtain ⟨j, value⟩ := exists_of_required before
  exact (h.restored value).required written

lemma optional (h : Lossless write read) {o : Option α} (before : optional fields name read = some o)
    (written : occurrences out name = (o.map write).toList) :
    Json.optional out name read = some o := by
  refine Restored.optional (fun a there => ?_) written
  obtain ⟨j, value⟩ := exists_of_optional (there ▸ before)
  exact h.restored value

lemma defaulted (h : Lossless write read) {default a : α}
    (before : defaulted fields name default read = some a)
    (default_again : read (write default) = some default)
    (written : occurrences out name = [write a]) :
    Json.defaulted out name default read = some a := by
  have restored : Restored write read a := by
    rcases exists_of_defaulted before with rfl | ⟨j, value⟩
    · exact ⟨h.present a, default_again⟩
    · exact h.restored value
  exact restored.defaulted written

lemma entries (h : Lossless write read) {xs : List α}
    (before : Json.defaulted fields name [] (list? read) = some xs)
    (written : occurrences out name = if xs ≠ [] then [.array (xs.map write)] else []) :
    Json.defaulted out name [] (list? read) = some xs := by
  refine Restored.entries (fun x hx => ?_) written
  obtain ⟨j, value⟩ := exists_of_defaulted_list before x hx
  exact h.restored value

/-! ## Records -/

/-- A record is written and read field by field. -/
lemma record {write : α → Fields} {read : Fields → Option α}
    (h : ∀ fields a, read fields = some a → read (write a) = some a) :
    Lossless (fun a => .object (write a)) (fun j => j.asObject?.bind read) := by
  refine ⟨fun _ => Json.noConfusion, fun j a given => ?_⟩
  obtain ⟨fields, -, given⟩ := Option.bind_eq_some_iff.1 given
  exact h fields a given

end Lossless

/-! ## Round trips -/

/-- Whatever can be read survives being written. -/
structure RoundTrips (write : α → Json) (read : Json → Option α) : Prop where
  /-- What was read is read again from what is written for it. -/
  again : ∀ j a, read j = some a → read (write a) = some a
  /-- So it is where objects are kept in maps. -/
  normal : ∀ j a, read j = some a → read (write a).normalize = some a
  /-- What is written does not change when it is read and written once more. -/
  settled : ∀ j a, read j = some a → (read (write a)).map write = some (write a)

lemma Lossless.roundTrips {write : α → Json} {read : Json → Option α} (h : Lossless write read)
    (steady : Steady read) : RoundTrips write read where
  again := h.again
  normal j a given := steady _ a (h.again j a given)
  settled j a given := by rw [h.again j a given, Option.map_some]

end CredentialOperator.Json
