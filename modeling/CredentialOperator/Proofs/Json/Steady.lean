import CredentialOperator.Proofs.Json.NormalForm
import Mathlib.Data.List.Forall2

/-!
# Reading normal forms

A reader is `Steady` if it reads from the normal form of a value what it reads from the value
itself.  Strict readers are: none of the fields that they know stands twice, so that nothing they
look at is lost when the last field of each name is kept.  The lemmas follow the ways in which
readers are put together, from texts and numbers to lists, fields and records.
-/

namespace CredentialOperator.Json

variable {α β : Type} {fields : Fields} {name : String} {read : Json → Option α}

/-! ## Lists and maps -/

lemma forall₂_of_mapM {items : List Json} {xs : List α} (h : items.mapM read = some xs) :
    List.Forall₂ (fun i x => read i = some x) items xs := by
  induction items generalizing xs with
  | nil =>
    obtain rfl : xs = [] := by simpa using h.symm
    exact .nil
  | cons i items ih =>
    rw [List.mapM_cons] at h
    obtain ⟨x, first, h⟩ := Option.bind_eq_some_iff.1 h
    obtain ⟨rest, others, h⟩ := Option.bind_eq_some_iff.1 h
    obtain rfl := Option.some.inj h
    exact .cons first (ih others)

lemma mapM_of_forall₂ {items : List Json} {xs : List α}
    (h : List.Forall₂ (fun i x => read i = some x) items xs) : items.mapM read = some xs := by
  induction h with
  | nil => rfl
  | cons first _ ih => simp [first, ih]

lemma list?_normalize {items : List Json} {xs : List α}
    (h : List.Forall₂ (fun i x => read i.normalize = some x) items xs) :
    list? read (Json.array items).normalize = some xs := by
  rw [normalize, normalizeItems_eq_map]
  exact mapM_of_forall₂ (List.forall₂_map_left_iff.2 h)

/-- The texts that a map was read from are found in it. -/
lemma getElem?_of_stringMap? {m : StringMap} (h : stringMap? (.object fields) = some m)
    (name : String) : m[name]?.map .string = lookup fields name := by
  have entered : ∀ (rest : Fields) (acc : StringMap), (rest.foldlM
      (fun m f => (m.insert f.1 ·) <$> string? f.2) acc) = some m →
        m[name]?.map .string = (lookup rest name).or (acc[name]?.map .string) := by
    intro rest
    induction rest with
    | nil =>
      intro acc h
      obtain rfl := Option.some.inj h
      simp
    | cons f rest ih =>
      obtain ⟨n, v⟩ := f
      intro acc h
      rw [List.foldlM_cons] at h
      obtain ⟨next, inserted, h⟩ := Option.bind_eq_some_iff.1 h
      cases v with
      | string s =>
        obtain rfl : acc.insert n s = next := by simpa [string?, asString?] using inserted
        rw [ih _ h, lookup, Std.ExtTreeMap.getElem?_insert]
        by_cases same : n = name
        · simp [same]
        · simp [same]
      | _ => simp [string?, asString?] at inserted
  simpa using entered fields ∅ h

/-- An object is read as a map of texts if its values are texts. -/
lemma stringMap?_of_texts {m : StringMap} (texts : ∀ f ∈ fields, ∃ s, f.2 = .string s)
    (found : ∀ n, lookup fields n = m[n]?.map .string) :
    stringMap? (.object fields) = some m := by
  have entered : ∀ (rest : Fields) (acc : StringMap), (∀ f ∈ rest, ∃ s, f.2 = .string s) →
      ∃ m', (rest.foldlM (fun m f => (m.insert f.1 ·) <$> string? f.2) acc) = some m' := by
    intro rest
    induction rest with
    | nil => exact fun acc _ => ⟨acc, rfl⟩
    | cons f rest ih =>
      obtain ⟨n, v⟩ := f
      intro acc texts
      obtain ⟨s, rfl⟩ : ∃ s, v = .string s := texts _ List.mem_cons_self
      exact ih (acc.insert n s) fun f hf => texts f (List.mem_cons_of_mem _ hf)
  obtain ⟨m', read⟩ := entered fields ∅ texts
  have read : stringMap? (.object fields) = some m' := read
  rw [read]
  congr 1
  apply Std.ExtTreeMap.ext_getElem?
  intro n
  exact Option.map_injective (fun _ _ => Json.string.inj)
    ((getElem?_of_stringMap? read n).trans (found n))

/-- The values of an object that is read as a map of texts are texts. -/
lemma texts_of_stringMap? {m : StringMap} (h : stringMap? (.object fields) = some m) :
    ∀ f ∈ fields, ∃ s, f.2 = .string s := by
  have entered : ∀ (rest : Fields) (acc m' : StringMap), (rest.foldlM
      (fun m f => (m.insert f.1 ·) <$> string? f.2) acc) = some m' →
        ∀ f ∈ rest, ∃ s, f.2 = .string s := by
    intro rest
    induction rest with
    | nil => exact fun _ _ _ f hf => absurd hf List.not_mem_nil
    | cons g rest ih =>
      intro acc m' h f hf
      rw [List.foldlM_cons] at h
      obtain ⟨next, inserted, h⟩ := Option.bind_eq_some_iff.1 h
      rcases List.mem_cons.1 hf with rfl | hf
      · obtain ⟨n, v⟩ := f
        cases v with
        | string s => exact ⟨s, rfl⟩
        | _ => simp [string?, asString?] at inserted
      · exact ih next m' h f hf
  exact entered fields ∅ m h

/-! ## Steady readers -/

/-- What is read from a value is read from its normal form, too. -/
def Steady (read : Json → Option α) : Prop :=
  ∀ j a, read j = some a → read j.normalize = some a

/-- What is read from fields is read from their normal form, too. -/
def SteadyFields (read : Fields → Option α) : Prop :=
  ∀ fields a, read fields = some a → read (normalizeFields [] fields) = some a

lemma steady_string? : Steady string? := by
  intro j a h
  cases j <;> exact h

lemma steady_named? {ofText? : String → Option α} : Steady (named? ofText?) := by
  intro j a h
  cases j <;> exact h

lemma steady_bool? : Steady bool? := by
  intro j a h
  cases j <;> exact h

lemma steady_integer? {lo hi : Int} : Steady (integer? lo hi) := by
  intro j a h
  cases j <;> exact h

lemma steady_nat64? : Steady nat64? := by
  intro j a h
  cases j <;> exact h

lemma Steady.list? (steady : Steady read) : Steady (list? read) := by
  intro j as h
  cases j with
  | array items => exact list?_normalize ((forall₂_of_mapM h).imp fun i a => steady i a)
  | _ => cases h

lemma steady_strings? : Steady strings? := steady_string?.list?

/-- The texts of a map are found under their names in the normal form. -/
lemma steady_stringMap? : Steady stringMap? := by
  intro j m h
  cases j with
  | object fields =>
    refine stringMap?_of_texts ?_ fun n => ?_
    · rintro ⟨n, v⟩ given
      have found := lookup_of_mem (distinct_normalize fields) given
      rw [lookup_normalize] at found
      obtain ⟨w, there, rfl⟩ := Option.map_eq_some_iff.1 found
      obtain ⟨s, text⟩ := texts_of_stringMap? h _ (mem_of_lookup there)
      obtain rfl : w = .string s := text
      exact ⟨s, rfl⟩
    · rw [lookup_normalize, ← getElem?_of_stringMap? h]
      cases m[n]? <;> rfl
  | _ => cases h

lemma Steady.nullable? (steady : Steady read) : Steady (nullable? read) := by
  intro j o h
  cases j with
  | null => exact h
  | array items | object fields =>
    obtain ⟨a, value, rfl⟩ := Option.map_eq_some_iff.1 h
    exact congrArg (some <$> ·) (steady _ a value)
  | _ => exact h

/-! ### Fields -/

/-- A field that stands at most once does so in the normal form. -/
lemma single?_normalize {o : Option Json} (h : single? fields name = some o) :
    single? (normalizeFields [] fields) name = some (o.map normalize) := by
  have found := lookup_eq_getLast? fields name
  have given := occurrences_normalize fields name
  unfold single? at h ⊢
  split at h
  next missing =>
    obtain rfl := Option.some.inj h
    rw [given, found, missing]
    rfl
  next j alone =>
    obtain rfl := Option.some.inj h
    rw [given, found, alone]
    rfl
  next => cases h

lemma Steady.required (steady : Steady read) (name : String) :
    SteadyFields fun fields => required fields name read := by
  intro fields a h
  change Json.required fields name read = some a at h
  unfold Json.required at h
  split at h
  next j single =>
    simp only [Json.required, single?_normalize single, Option.map_some, steady j a h]
  next => cases h

lemma Steady.optional (steady : Steady read) (name : String) :
    SteadyFields fun fields => optional fields name read := by
  intro fields o h
  change Json.optional fields name read = some o at h
  unfold Json.optional at h
  split at h
  next single => simpa only [Json.optional, single?_normalize single, Option.map_none] using h
  next j single =>
    simp only [Json.optional, single?_normalize single, Option.map_some, steady.nullable? j o h]
  next => cases h

lemma Steady.defaulted (steady : Steady read) (name : String) (default : α) :
    SteadyFields fun fields => defaulted fields name default read := by
  intro fields a h
  change Json.defaulted fields name default read = some a at h
  unfold Json.defaulted at h
  split at h
  next single => simpa only [Json.defaulted, single?_normalize single, Option.map_none] using h
  next j single =>
    simp only [Json.defaulted, single?_normalize single, Option.map_some, steady j a h]
  next => cases h

/-! ### Records -/

lemma SteadyFields.some (a : α) : SteadyFields fun _ => some a := fun _ _ h => h

lemma SteadyFields.bind {first : Fields → Option α} {rest : α → Fields → Option β}
    (h : SteadyFields first) (h' : ∀ a, SteadyFields (rest a)) :
    SteadyFields fun fields => (first fields).bind fun a => rest a fields := by
  intro fields b read
  obtain ⟨a, value, read⟩ := Option.bind_eq_some_iff.1 read
  exact Option.bind_eq_some_iff.2 ⟨a, h fields a value, h' a fields b read⟩

/-- A record is read steadily if its fields are. -/
lemma Steady.record {read : Fields → Option α} (h : SteadyFields read) :
    Steady fun j => j.asObject?.bind read := by
  intro j a read
  cases j with
  | object fields => exact h fields a read
  | _ => cases read

end CredentialOperator.Json
