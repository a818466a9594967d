import CredentialOperator.Proofs.Json.Records
import Mathlib.Data.String.Basic

/-!
# Values in normal form

A value in normal form has the fields of its objects in ascending order, so that every name
stands once.  Looking a name up does not tell a value from its normal form
(`lookup_normalizeFields`), up to the normal form of what is found.
-/

namespace CredentialOperator.Json

variable {α : Type} {fields done : Fields} {name : String} {value : Json}

/-! ## Fields looked up -/

lemma lookup_entry (n : String) (v : Json) (name : String) :
    lookup (entry n v) name = if n = name then some v else none := by
  simp [entry, lookup]

lemma lookup_optionalEntry (n : String) (write : α → Json) (o : Option α) (name : String) :
    lookup (optionalEntry n write o) name = if n = name then o.map write else none := by
  cases o <;> simp [optionalEntry, lookup]

lemma lookup_entries (n : String) (write : α → Json) (xs : List α) (name : String) :
    lookup (entries n write xs) name =
      if n = name ∧ xs ≠ [] then some (.array (xs.map write)) else none := by
  cases xs <;> simp [entries, lookup]

lemma lookup_filter (keep : String → Bool) (fields : Fields) (name : String) :
    lookup (fields.filter fun f => keep f.1) name =
      if keep name then lookup fields name else none := by
  induction fields with
  | nil => simp
  | cons f rest ih =>
    obtain ⟨n, v⟩ := f
    by_cases same : n = name
    · subst same
      cases kept : keep n <;> simp [kept, lookup, ih]
    · cases kept : keep n <;> simp [kept, lookup, ih, same]

lemma lookup_eq_none_iff : lookup fields name = none ↔ ∀ f ∈ fields, f.1 ≠ name := by
  induction fields with
  | nil => simp
  | cons f rest ih => simp [lookup, ih, and_comm]

/-- Where every name stands once, a value that is given for a name is the only one. -/
lemma occurrences_of_distinct (distinct : (fields.map (·.1)).Nodup) (name : String) :
    occurrences fields name = (lookup fields name).toList := by
  induction fields with
  | nil => rfl
  | cons f rest ih =>
    obtain ⟨n, v⟩ := f
    obtain ⟨fresh, distinct⟩ := List.nodup_cons.1 distinct
    rw [occurrences_cons, ih distinct, lookup]
    by_cases same : n = name
    · subst same
      have missing : lookup rest n = none := by
        rw [lookup_eq_none_iff]
        intro g given found
        exact fresh (List.mem_map.2 ⟨g, given, found⟩)
      simp [missing]
    · simp [same]

/-- Where every name stands once, a field is found under its name. -/
lemma lookup_of_mem (distinct : (fields.map (·.1)).Nodup) (h : (name, value) ∈ fields) :
    lookup fields name = some value := by
  have given : value ∈ occurrences fields name := by
    simp only [occurrences, List.mem_map, List.mem_filter]
    exact ⟨(name, value), ⟨h, beq_self_eq_true name⟩, rfl⟩
  rw [occurrences_of_distinct distinct] at given
  exact Option.mem_toList.1 given

lemma mem_of_lookup (h : lookup fields name = some value) : (name, value) ∈ fields := by
  induction fields with
  | nil => cases h
  | cons f rest ih =>
    obtain ⟨n, v⟩ := f
    cases later : lookup rest name with
    | some w =>
      rw [lookup, later, Option.some_or] at h
      exact List.mem_cons_of_mem _ (ih (later.trans h))
    | none =>
      rw [lookup, later, Option.none_or] at h
      split_ifs at h with same
      obtain rfl := Option.some.inj h
      rw [same]
      exact List.mem_cons_self

/-! ## Ascending fields -/

/-- The names of the fields ascend. -/
def Ascending (fields : Fields) : Prop := fields.Pairwise fun f g => f.1 < g.1

lemma Ascending.nil : Ascending [] := List.Pairwise.nil

lemma Ascending.distinct (h : Ascending fields) : (fields.map (·.1)).Nodup := by
  rw [List.Nodup, List.pairwise_map]
  exact List.Pairwise.imp ne_of_lt h

lemma Ascending.filter (h : Ascending fields) (keep : String × Json → Bool) :
    Ascending (fields.filter keep) := List.Pairwise.filter keep h

/-- Ascending fields are told by looking their names up. -/
lemma Ascending.ext {xs ys : Fields} (h : Ascending xs) (h' : Ascending ys)
    (same : ∀ n, lookup xs n = lookup ys n) : xs = ys := by
  refine List.Perm.eq_of_pairwise (fun f g _ _ before after => absurd before after.not_gt) h h' ?_
  have nodup : ∀ {zs : Fields}, Ascending zs → zs.Nodup := fun ascending =>
    List.Pairwise.imp (fun before eq => before.ne (congrArg Prod.fst eq)) ascending
  rw [List.perm_ext_iff_of_nodup (nodup h) (nodup h')]
  intro f
  constructor
  · intro mem
    exact mem_of_lookup ((same f.1).symm.trans (lookup_of_mem h.distinct mem))
  · intro mem
    exact mem_of_lookup ((same f.1).trans (lookup_of_mem h'.distinct mem))

lemma eq_or_mem_of_mem_setOrdered {f : String × Json} (h : f ∈ setOrdered fields name value) :
    f = (name, value) ∨ f ∈ fields := by
  induction fields with
  | nil => exact .inl (List.mem_singleton.1 h)
  | cons g rest ih =>
    obtain ⟨n, v⟩ := g
    unfold setOrdered at h
    split_ifs at h
    · exact List.mem_cons.1 h
    · rcases List.mem_cons.1 h with rfl | h
      · exact .inl rfl
      · exact .inr (List.mem_cons_of_mem _ h)
    · rcases List.mem_cons.1 h with rfl | h
      · exact .inr List.mem_cons_self
      · exact (ih h).imp_right (List.mem_cons_of_mem _)

lemma Ascending.setOrdered (h : Ascending fields) (name : String) (value : Json) :
    Ascending (setOrdered fields name value) := by
  induction fields with
  | nil => exact List.pairwise_singleton _ _
  | cons g rest ih =>
    obtain ⟨n, v⟩ := g
    obtain ⟨least, ascending⟩ := List.pairwise_cons.1 h
    unfold Json.setOrdered
    split_ifs with before same
    · refine List.pairwise_cons.2 ⟨fun f given => ?_, h⟩
      rcases List.mem_cons.1 given with rfl | given
      · exact before
      · exact before.trans (least f given)
    · subst same
      exact List.pairwise_cons.2 ⟨least, ascending⟩
    · refine List.pairwise_cons.2 ⟨fun f given => ?_, ih ascending⟩
      rcases eq_or_mem_of_mem_setOrdered given with rfl | given
      · exact lt_of_le_of_ne (not_lt.1 before) (Ne.symm same)
      · exact least f given

lemma lookup_setOrdered (h : Ascending fields) (name : String) (value : Json) (other : String) :
    lookup (Json.setOrdered fields name value) other =
      if name = other then some value else lookup fields other := by
  induction fields with
  | nil => simp [Json.setOrdered, lookup]
  | cons g rest ih =>
    obtain ⟨n, v⟩ := g
    obtain ⟨least, ascending⟩ := List.pairwise_cons.1 h
    by_cases before : name < n
    · -- the name comes before all others, so that it is none of them
      have missing : lookup ((n, v) :: rest) name = none := by
        rw [lookup_eq_none_iff]
        intro f given
        rcases List.mem_cons.1 given with rfl | given
        · exact before.ne'
        · exact (before.trans (least f given)).ne'
      rw [Json.setOrdered, if_pos before]
      by_cases found : name = other
      · subst found
        rw [lookup, missing]
        simp
      · simp [lookup, found]
    · rw [Json.setOrdered, if_neg before]
      by_cases same : name = n
      · subst same
        have missing : lookup rest name = none :=
          lookup_eq_none_iff.2 fun f given => (least f given).ne'
        by_cases found : name = other
        · subst found
          simp [lookup, missing]
        · simp [lookup, found]
      · rw [if_neg same, lookup, ih ascending, lookup]
        by_cases found : name = other
        · simp [found]
        · simp [found]

/-! ## Normal forms -/

lemma normalizeItems_eq_map (items : List Json) : normalizeItems items = items.map normalize := by
  induction items with
  | nil => rfl
  | cons j rest ih => rw [normalizeItems, ih, List.map_cons]

lemma Ascending.normalizeFields (h : Ascending done) (fields : Fields) :
    Ascending (normalizeFields done fields) := by
  induction fields generalizing done with
  | nil => exact h
  | cons f rest ih => exact ih (h.setOrdered _ _)

/-- The last field of a name counts. -/
lemma lookup_normalizeFields (h : Ascending done) (fields : Fields) (name : String) :
    lookup (normalizeFields done fields) name =
      ((lookup fields name).map normalize).or (lookup done name) := by
  induction fields generalizing done with
  | nil => simp [Json.normalizeFields]
  | cons f rest ih =>
    obtain ⟨n, v⟩ := f
    rw [Json.normalizeFields, ih (h.setOrdered _ _), lookup_setOrdered h, lookup]
    cases lookup rest name with
    | some w => simp
    | none => by_cases same : n = name <;> simp [same]

lemma lookup_normalize (fields : Fields) (name : String) :
    lookup (normalizeFields [] fields) name = (lookup fields name).map normalize := by
  rw [lookup_normalizeFields .nil]
  simp

lemma distinct_normalize (fields : Fields) : ((normalizeFields [] fields).map (·.1)).Nodup :=
  (Ascending.nil.normalizeFields fields).distinct

lemma occurrences_normalize (fields : Fields) (name : String) :
    occurrences (normalizeFields [] fields) name =
      ((lookup fields name).map normalize).toList := by
  rw [occurrences_of_distinct (distinct_normalize fields), lookup_normalize]

end CredentialOperator.Json
