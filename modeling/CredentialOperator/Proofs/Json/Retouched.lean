import CredentialOperator.Proofs.Json.Patches

/-!
# Fields that a patch leaves alone

Looking fields up does not tell how an object stands in a text, where fields have an order and may
repeat.  A patch that was found between two objects touches the fields in which they differ and no
others (`retouched_of_diff`): all others stand as they stood, and a field that is touched stands
once at most afterwards.
-/

namespace CredentialOperator.Json

variable {fields xs ys zs : Fields} {names : List String} {n name : String}

/-! ## Fields set and removed -/

/-- Some fields of an object may have been set or removed: all others stand as they stood, and each
field stands as it stood, or once at most. -/
structure Retouched (names : List String) (xs ys : Fields) : Prop where
  others : (ys.filter fun f => !names.contains f.1) = xs.filter fun f => !names.contains f.1
  single : ∀ n, occurrences ys n = occurrences xs n ∨ occurrences ys n = (lookup ys n).toList

lemma lookup_of_occurrences (h : occurrences ys n = occurrences xs n) :
    lookup ys n = lookup xs n := by
  rw [lookup_eq_getLast?, lookup_eq_getLast?, h]

lemma occurrences_filter (keep : String → Bool) (fields : Fields) (name : String) :
    occurrences (fields.filter fun f => keep f.1) name =
      if keep name then occurrences fields name else [] := by
  induction fields with
  | nil => simp
  | cons f rest ih =>
    obtain ⟨m, v⟩ := f
    by_cases same : m = name
    · subst same
      cases kept : keep m <;> simp [kept, occurrences_cons, ih]
    · cases kept : keep m <;> simp [kept, occurrences_cons, ih, same]

lemma filter_erase (keep : String → Bool) (h : keep n = false) (fields : Fields) :
    ((erase fields n).filter fun f => keep f.1) = fields.filter fun f => keep f.1 := by
  induction fields with
  | nil => rfl
  | cons f rest ih =>
    obtain ⟨m, v⟩ := f
    by_cases same : m = n
    · subst same
      simp [erase, ih, h]
    · simp only [erase, if_neg same, List.filter_cons, ih]

lemma filter_put (keep : String → Bool) (h : keep n = false) (v : Json) (fields : Fields) :
    ((put fields n v).filter fun f => keep f.1) = fields.filter fun f => keep f.1 := by
  induction fields with
  | nil => simp [put, h]
  | cons f rest ih =>
    obtain ⟨m, w⟩ := f
    by_cases same : m = n
    · subst same
      simp [put, h, filter_erase keep h]
    · simp only [put, if_neg same, List.filter_cons, ih]

namespace Retouched

lemma refl (names : List String) (xs : Fields) : Retouched names xs xs := ⟨rfl, fun _ => .inl rfl⟩

lemma trans (h : Retouched names xs ys) (h' : Retouched names ys zs) : Retouched names xs zs where
  others := h'.others.trans h.others
  single n := by
    rcases h'.single n with same | once
    · rcases h.single n with same' | once
      · exact .inl (same.trans same')
      · exact .inr (by rw [lookup_of_occurrences same, same, once])
    · exact .inr once

lemma put (fields : Fields) (listed : n ∈ names) (v : Json) :
    Retouched names fields (put fields n v) where
  others := filter_put (fun n => !names.contains n) (by simpa using listed) v fields
  single m := by
    rw [occurrences_put, lookup_put]
    split_ifs
    · exact .inr rfl
    · exact .inl rfl

lemma erase (fields : Fields) (listed : n ∈ names) : Retouched names fields (erase fields n) where
  others := filter_erase (fun n => !names.contains n) (by simpa using listed) fields
  single m := by
    rw [occurrences_erase, lookup_erase]
    split_ifs
    · exact .inr rfl
    · exact .inl rfl

lemma occurrences_eq (h : Retouched names xs ys) (other : n ∉ names) :
    occurrences ys n = occurrences xs n := by
  have kept : (!names.contains n) = true := by simpa using other
  have same := congrArg (occurrences · n) h.others
  simpa only [occurrences_filter fun n => !names.contains n, if_pos kept] using same

/-- A field that stood once stands once if it still stands. -/
lemma occurrences_single (h : Retouched names xs ys) {v w : Json} (once : occurrences xs n = [v])
    (stands : lookup ys n = some w) : occurrences ys n = [w] := by
  rcases h.single n with same | single
  · rw [lookup_eq_getLast?, same, once] at stands
    rw [same, once]
    simpa using stands
  · rw [single, stands]
    rfl

/-- Of the values that stand afterwards each stood before, or is found under its name. -/
lemma mem (h : Retouched names xs ys) {f : String × Json} (hf : f ∈ ys) :
    f ∈ xs ∨ f.1 ∈ names ∧ lookup ys f.1 = some f.2 := by
  have stands : f.2 ∈ occurrences ys f.1 := by
    simp only [occurrences, List.mem_map, List.mem_filter, beq_iff_eq]
    exact ⟨f, ⟨hf, rfl⟩, rfl⟩
  have of_same : occurrences ys f.1 = occurrences xs f.1 → f ∈ xs := by
    intro same
    rw [same] at stands
    simp only [occurrences, List.mem_map, List.mem_filter, beq_iff_eq] at stands
    obtain ⟨g, ⟨hg, name⟩, value⟩ := stands
    exact (Prod.ext name value : g = f) ▸ hg
  by_cases listed : f.1 ∈ names
  · rcases h.single f.1 with same | once
    · exact .inl (of_same same)
    · rw [once] at stands
      exact .inr ⟨listed, Option.mem_toList.1 stands⟩
  · exact .inl (of_same (h.occurrences_eq listed))

end Retouched

/-! ## Patches -/

/-- The first part of the path of an operation. -/
def Operation.head? : Operation → Option String
  | .add path _ | .remove path | .replace path _ => path.head?

lemma Operation.head?_under (op : Operation) (name : String) :
    (op.under name).head? = some name := by
  cases op <;> rfl

/-- An operation at or below a field of an object sets or removes this field. -/
lemma Operation.retouched {op : Operation} (head : op.head? = some name) (listed : name ∈ names)
    {r : Json} (done : op.patched? (.object fields) = some r) :
    ∃ fields', r = .object fields' ∧ Retouched names fields fields' := by
  have below : ∀ {o : Operation}, o.Inside → (o.under name).patched? (.object fields) = some r →
      ∃ fields', r = .object fields' ∧ Retouched names fields fields' := by
    intro o inside done
    rw [Operation.patched?_under inside] at done
    obtain ⟨old, found, done⟩ := Option.bind_eq_some_iff.1 done
    obtain ⟨new, -, done⟩ := Option.bind_eq_some_iff.1 done
    have found : lookup fields name = some old := found
    obtain rfl : Json.object (Json.put fields name new) = r := by
      simpa [replacePart, found] using done
    exact ⟨_, rfl, .put fields listed new⟩
  cases op with
  | add path v =>
    obtain ⟨rest, rfl⟩ : ∃ rest, path = name :: rest := List.head?_eq_some_iff.1 head
    by_cases last : rest = []
    · subst last
      obtain rfl := Option.some.inj done
      exact ⟨_, rfl, .put fields listed v⟩
    · exact below (o := .add rest v) last done
  | remove path =>
    obtain ⟨rest, rfl⟩ : ∃ rest, path = name :: rest := List.head?_eq_some_iff.1 head
    by_cases last : rest = []
    · subst last
      simp only [Operation.patched?, List.getLast?_singleton, List.dropLast_singleton, modifyAt,
        removePart] at done
      split_ifs at done
      obtain rfl := Option.some.inj done
      exact ⟨_, rfl, .erase fields listed⟩
    · exact below (o := .remove rest) last done
  | replace path v =>
    obtain ⟨rest, rfl⟩ : ∃ rest, path = name :: rest := List.head?_eq_some_iff.1 head
    exact below (o := .replace rest v) trivial done

/-- Operations at or below some fields of an object leave the others alone. -/
lemma retouched_of_heads {ops : Patch} (heads : ∀ op ∈ ops, ∃ n ∈ names, op.head? = some n)
    {r : Json} (done : patched? (.object fields) ops = some r) :
    ∃ fields', r = .object fields' ∧ Retouched names fields fields' := by
  induction ops generalizing fields with
  | nil =>
    obtain rfl := Option.some.inj done
    exact ⟨fields, rfl, .refl names fields⟩
  | cons op ops ih =>
    obtain ⟨next, first, rest⟩ := Option.bind_eq_some_iff.1 done
    obtain ⟨n, listed, head⟩ := heads op List.mem_cons_self
    obtain ⟨mid, rfl, step⟩ := op.retouched head listed first
    obtain ⟨fields', rfl, steps⟩ := ih (fun op h => heads op (List.mem_cons_of_mem _ h)) rest
    exact ⟨fields', rfl, step.trans steps⟩

/-- What is found between two objects is found in one of the fields. -/
lemma mem_diffFields {old new : Fields} {op : Operation} (h : op ∈ diffFields [] old new) :
    ∃ f ∈ new, op ∈ fieldDiff old f.1 f.2 := by
  induction new with
  | nil => cases h
  | cons f rest ih =>
    rw [diffFields_nil_cons] at h
    rcases List.mem_append.1 h with h | h
    · exact ⟨f, List.mem_cons_self, h⟩
    · obtain ⟨g, hg, h⟩ := ih h
      exact ⟨g, List.mem_cons_of_mem _ hg, h⟩

/-- The operations that are found between two objects are at or below fields in which they
differ. -/
lemma heads_of_diffFields {old new : Fields} (distinct : (new.map (·.1)).Nodup)
    (plain : ∀ f ∈ new, Undiffered f.2) (same : ∀ n ∉ names, lookup new n = lookup old n) :
    ∀ op ∈ diff (.object old) (.object new), ∃ n ∈ names, op.head? = some n := by
  intro op hop
  rw [diff, diffAt] at hop
  rcases List.mem_append.1 hop with hop | hop
  · obtain ⟨f, hf, hop⟩ := mem_diffFields hop
    refine ⟨f.1, ?_, ?_⟩
    · -- in a field that is the same no difference is found
      by_contra other
      have there : lookup old f.1 = some f.2 := by
        rw [← same f.1 other]
        exact lookup_of_mem distinct hf
      rw [fieldDiff_of_present there, diff, plain f hf []] at hop
      cases hop
    · cases there : lookup old f.1 with
      | none =>
        rw [fieldDiff_of_missing there] at hop
        rw [List.mem_singleton.1 hop]
        rfl
      | some w =>
        rw [fieldDiff_of_present there] at hop
        obtain ⟨o, -, rfl⟩ := List.mem_map.1 hop
        exact o.head?_under f.1
  · obtain ⟨f, hf, rfl⟩ := List.mem_map.1 hop
    obtain ⟨stood, gone⟩ := List.mem_filter.1 hf
    refine ⟨f.1, ?_, rfl⟩
    by_contra other
    rw [same f.1 other, Option.isNone_iff_eq_none, lookup_eq_none_iff] at gone
    exact gone f stood rfl

/-- A patch that is found between two objects touches the fields in which they differ, in whatever
object it is carried out. -/
theorem retouched_of_diff {x y : Json} (objects : (∃ old, x = .object old) ∧ ∃ new, y = .object new)
    (same : ∀ n ∉ names, y.get? n = x.get? n) {r : Json}
    (done : patched? (.object fields) (diff x.normalize y.normalize) = some r) :
    ∃ fields', r = .object fields' ∧ Retouched names fields fields' := by
  obtain ⟨⟨old, rfl⟩, new, rfl⟩ := objects
  refine retouched_of_heads (heads_of_diffFields (distinct_normalize new)
    (undiffered_normalizeFields new [] fun _ h => absurd h List.not_mem_nil) fun n other => ?_) done
  rw [lookup_normalize, lookup_normalize]
  exact congrArg _ (same n other)

end CredentialOperator.Json
