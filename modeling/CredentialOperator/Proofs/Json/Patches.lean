import CredentialOperator.Json.Patch
import CredentialOperator.Proofs.Json.NormalForm
import CredentialOperator.Proofs.Text.Numerals

/-!
# Patches carried out on another value

A patch is found by comparing two values, and carried out on a third that may differ from the
first in fields that both do not touch.  This works out place by place: what is found below a
part of a path can be carried out on the child that the part names (`Operation.patched?_under`),
so that a patch of objects is a patch for each of their fields (`patched?_diff_object`) and a
patch of lists one for each of their items (`patched?_diff_array`).
-/

namespace CredentialOperator.Json

/-! ## Operations below a part of a path -/

namespace Operation

/-- The operation on a child, seen from its parent. -/
def under (part : String) : Operation → Operation
  | .add path value => .add (part :: path) value
  | .remove path => .remove (part :: path)
  | .replace path value => .replace (part :: path) value

/-- The operation leaves the value itself in its place: only another value as a whole, or a
change of what is inside. -/
def Inside : Operation → Prop
  | .add path _ => path ≠ []
  | .remove path => path ≠ []
  | .replace _ _ => True

end Operation

mutual

/-- What is found does not depend on where the values stand. -/
lemma diffAt_cons (part : String) (path : Path) (left : Json) :
    (right : Json) → diffAt (part :: path) left right = (diffAt path left right).map (.under part)
  | .object fields => by
    cases left with
    | object old =>
      simp only [diffAt, diffFields_cons part path old fields, List.map_append, List.map_map]
      rfl
    | _ => rfl
  | .array items => by
    cases left with
    | array old => exact diffItems_cons part path 0 old items
    | _ => rfl
  | .null | .bool _ | .number _ | .string _ => by
    simp only [diffAt]
    split <;> rfl

lemma diffFields_cons (part : String) (path : Path) (old : Fields) :
    (fields : List (String × Json)) →
      diffFields (part :: path) old fields = (diffFields path old fields).map (.under part)
  | [] => rfl
  | (n, v) :: rest => by
    simp only [diffFields, List.map_append, diffFields_cons part path old rest]
    cases lookup old n with
    | none => rfl
    | some w => simp only [List.cons_append, diffAt_cons part (path ++ [n]) w v]

lemma diffItems_cons (part : String) (path : Path) (i : Nat) (old : List Json) :
    (items : List Json) →
      diffItems (part :: path) i old items = (diffItems path i old items).map (.under part)
  | [] => by
    simp only [diffItems, List.map_map]
    rfl
  | v :: rest => by
    cases old with
    | nil =>
      simp only [diffItems, diffItems_cons part path (i + 1) [] rest]
      rfl
    | cons w old =>
      simp only [diffItems, List.cons_append, diffAt_cons part (path ++ [toString i]) w v,
        diffItems_cons part path (i + 1) old rest, List.map_append]

end

/-- What is found at a part of a path is what is found at the value itself, below the part. -/
lemma diffAt_single (part : String) (left right : Json) :
    diffAt [part] left right = (diff left right).map (.under part) :=
  diffAt_cons part [] left right

mutual

lemma inside_of_mem_diffAt (path : Path) (left : Json) {op : Operation} :
    (right : Json) → op ∈ diffAt path left right → op.Inside
  | .object fields, h => by
    cases left with
    | object old =>
      rcases List.mem_append.1 h with h | h
      · exact inside_of_mem_diffFields path old fields h
      · obtain ⟨f, -, rfl⟩ := List.mem_map.1 h
        exact List.append_ne_nil_of_right_ne_nil _ (List.cons_ne_nil _ _)
    | _ => rw [List.mem_singleton.1 h]; trivial
  | .array items, h => by
    cases left with
    | array old => exact inside_of_mem_diffItems path 0 old items h
    | _ => rw [List.mem_singleton.1 h]; trivial
  | .null, h | .bool _, h | .number _, h | .string _, h => by
    simp only [diffAt] at h
    split at h
    · cases h
    · rw [List.mem_singleton.1 h]; trivial

lemma inside_of_mem_diffFields (path : Path) (old : Fields) {op : Operation} :
    (fields : List (String × Json)) → op ∈ diffFields path old fields → op.Inside
  | (n, v) :: rest, h => by
    rw [diffFields] at h
    rcases List.mem_append.1 h with h | h
    · cases found : lookup old n with
      | none =>
        simp only [found, List.mem_singleton] at h
        subst h
        exact List.append_ne_nil_of_right_ne_nil _ (List.cons_ne_nil _ _)
      | some w =>
        simp only [found] at h
        exact inside_of_mem_diffAt (path ++ [n]) w v h
    · exact inside_of_mem_diffFields path old rest h

lemma inside_of_mem_diffItems (path : Path) (i : Nat) (old : List Json) {op : Operation} :
    (items : List Json) → op ∈ diffItems path i old items → op.Inside
  | [], h => by
    obtain ⟨j, -, rfl⟩ := List.mem_map.1 h
    exact List.append_ne_nil_of_right_ne_nil _ (List.cons_ne_nil _ _)
  | v :: rest, h => by
    cases old with
    | nil =>
      rcases List.mem_cons.1 h with rfl | h
      · exact List.append_ne_nil_of_right_ne_nil _ (List.cons_ne_nil _ _)
      · exact inside_of_mem_diffItems path (i + 1) [] rest h
    | cons w old =>
      rcases List.mem_append.1 h with h | h
      · exact inside_of_mem_diffAt (path ++ [toString i]) w v h
      · exact inside_of_mem_diffItems path (i + 1) old rest h

end

lemma inside_of_mem_diff {left right : Json} : ∀ op ∈ diff left right, op.Inside :=
  fun _ h => inside_of_mem_diffAt [] left right h

lemma replacePart_eq_none {j : Json} {part : String} (h : child? j part = none) (v : Json) :
    replacePart j part v = none := by
  cases j with
  | object fields => simp_all [child?, replacePart]
  | array items =>
    simp only [child?, replacePart] at h ⊢
    cases i : index? part with
    | none => rfl
    | some i => simp_all
  | _ => rfl

/-- An operation below a part is carried out on the child that the part names. -/
lemma Operation.patched?_under {op : Operation} (inside : op.Inside) (part : String) (j : Json) :
    (op.under part).patched? j =
      (child? j part).bind fun c => (op.patched? c).bind (replacePart j part) := by
  -- with the last part of the path set apart, only the rest of the path gets longer
  have ends : ∀ (init : Path) (last : String),
      (part :: (init ++ [last])).getLast? = some last ∧
        (part :: (init ++ [last])).dropLast = part :: init := fun init last =>
    ⟨by rw [← List.cons_append, List.getLast?_concat],
      by rw [← List.cons_append, List.dropLast_concat]⟩
  cases op with
  | add path value =>
    obtain ⟨init, last, rfl⟩ := List.eq_nil_or_concat' path |>.resolve_left inside
    simp [Operation.under, Operation.patched?, ends, modifyAt]
  | remove path =>
    obtain ⟨init, last, rfl⟩ := List.eq_nil_or_concat' path |>.resolve_left inside
    simp [Operation.under, Operation.patched?, ends, modifyAt]
  | replace path value =>
    rcases List.eq_nil_or_concat' path with rfl | ⟨init, last, rfl⟩
    · cases found : child? j part with
      | none => simpa [Operation.under, Operation.patched?, modifyAt] using
          replacePart_eq_none found value
      | some c => simp [Operation.under, Operation.patched?, modifyAt]
    · simp [Operation.under, Operation.patched?, ends, modifyAt]

/-! ## Fields -/

lemma patched?_append (j : Json) (xs ys : Patch) :
    patched? j (xs ++ ys) = (patched? j xs).bind (patched? · ys) := by
  simp [patched?, List.foldlM_append]

/-- A patch below a name changes the field of this name and no other. -/
lemma patched?_under_name {ops : Patch} (inside : ∀ op ∈ ops, op.Inside) {fields : Fields}
    {name : String} {old new : Json} (found : lookup fields name = some old)
    (done : patched? old ops = some new) :
    ∃ fields', patched? (.object fields) (ops.map (.under name)) = some (.object fields') ∧
      ∀ n, lookup fields' n = if name = n then some new else lookup fields n := by
  induction ops generalizing fields old with
  | nil =>
    obtain rfl := Option.some.inj done
    refine ⟨fields, rfl, fun n => ?_⟩
    split_ifs with same
    · rw [← same, found]
    · rfl
  | cons op ops ih =>
    obtain ⟨next, first, rest⟩ := Option.bind_eq_some_iff.1 done
    have step : (op.under name).patched? (.object fields) =
        some (.object (put fields name next)) := by
      rw [Operation.patched?_under (inside op List.mem_cons_self)]
      simp [child?, replacePart, found, first]
    have still : lookup (put fields name next) name = some next := by rw [lookup_put, if_pos rfl]
    obtain ⟨fields', all, lookups⟩ :=
      ih (fun op h => inside op (List.mem_cons_of_mem _ h)) still rest
    refine ⟨fields', ?_, fun n => ?_⟩
    · rw [List.map_cons, patched?, List.foldlM_cons, step]
      exact all
    · rw [lookups, lookup_put]
      split_ifs <;> rfl

/-- How one field goes when objects are compared and the patch is carried out on a third: the
values of the field in the two objects, in the third, and in the result. -/
inductive FieldPatched : Option Json → Option Json → Option Json → Option Json → Prop where
  /-- The field stands in neither object. -/
  | absent (given : Option Json) : FieldPatched none none given given
  /-- The field only stands in the second object. -/
  | added (new : Json) (given : Option Json) : FieldPatched none (some new) given (some new)
  /-- No difference is found. -/
  | kept {old new : Json} (same : diff old new = []) (given : Option Json) :
    FieldPatched (some old) (some new) given given
  /-- The difference is made to the value given. -/
  | changed {old new given result : Json} (done : patched? given (diff old new) = some result) :
    FieldPatched (some old) (some new) (some given) (some result)

lemma FieldPatched.of_missing {old given result : Option Json}
    (h : FieldPatched old none given result) : old = none ∧ result = given := by
  cases h
  exact ⟨rfl, rfl⟩

/-- The operations for one field of the new object. -/
def fieldDiff (old : Fields) (name : String) (new : Json) : Patch :=
  match lookup old name with
  | some w => diffAt [name] w new
  | none => [.add [name] new]

lemma fieldDiff_of_present {old : Fields} {name : String} {w : Json}
    (there : lookup old name = some w) (new : Json) :
    fieldDiff old name new = (diff w new).map (.under name) := by
  rw [fieldDiff, there]
  exact diffAt_single name w new

lemma fieldDiff_of_missing {old : Fields} {name : String} (missing : lookup old name = none)
    (new : Json) : fieldDiff old name new = [.add [name] new] := by
  rw [fieldDiff, missing]

lemma diffFields_nil_cons (old : Fields) (name : String) (new : Json) (rest : Fields) :
    diffFields [] old ((name, new) :: rest) = fieldDiff old name new ++ diffFields [] old rest :=
  rfl

/-- What is found in one field is carried out on that field. -/
lemma patched?_field {old : Fields} {name : String} {new : Json} {given : Fields}
    {result : Option Json}
    (change : FieldPatched (lookup old name) (some new) (lookup given name) result) :
    ∃ given', patched? (.object given) (fieldDiff old name new) = some (.object given') ∧
      ∀ n, lookup given' n = if name = n then result else lookup given n := by
  generalize there : lookup old name = o at change
  generalize found : lookup given name = x at change
  cases change with
  | added =>
    rw [fieldDiff_of_missing there]
    exact ⟨put given name new, rfl, fun n => lookup_put _ _ _ _⟩
  | kept same =>
    rw [fieldDiff_of_present there, same]
    refine ⟨given, rfl, fun n => ?_⟩
    split_ifs with eq
    · rw [← eq, found]
    · rfl
  | changed done =>
    rw [fieldDiff_of_present there]
    exact patched?_under_name inside_of_mem_diff found done

lemma patched?_diffFields {old fields given : Fields} {result : String → Option Json}
    (distinct : (fields.map (·.1)).Nodup)
    (change : ∀ f ∈ fields,
      FieldPatched (lookup old f.1) (some f.2) (lookup given f.1) (result f.1)) :
    ∃ given', patched? (.object given) (diffFields [] old fields) = some (.object given') ∧
      ∀ n, lookup given' n = if n ∈ fields.map (·.1) then result n else lookup given n := by
  induction fields generalizing given with
  | nil => exact ⟨given, rfl, fun n => by simp⟩
  | cons f rest ih =>
    obtain ⟨name, new⟩ := f
    obtain ⟨fresh, distinct⟩ := List.nodup_cons.1 distinct
    obtain ⟨mid, first, lookups⟩ := patched?_field (change _ List.mem_cons_self)
    -- the fields that are left are still as they were given
    have rest_change : ∀ f ∈ rest,
        FieldPatched (lookup old f.1) (some f.2) (lookup mid f.1) (result f.1) := by
      intro f h
      have other : name ≠ f.1 := fun same => fresh (List.mem_map.2 ⟨f, h, same.symm⟩)
      rw [lookups, if_neg other]
      exact change f (List.mem_cons_of_mem _ h)
    obtain ⟨given', all, lookups'⟩ := ih distinct rest_change
    refine ⟨given', ?_, fun n => ?_⟩
    · rw [diffFields_nil_cons, patched?_append]
      exact Option.bind_eq_some_iff.2 ⟨_, first, all⟩
    · rw [lookups', lookups]
      by_cases same : name = n
      · subst same
        simp
      · simp only [List.map_cons, List.mem_cons, same, Ne.symm same, if_false, false_or]

/-- A patch that is found between objects can be carried out on a third one if it can on each
field, and has the fields as results that it has one by one. -/
theorem patched?_diff_object {old new given : Fields} {result : String → Option Json}
    (distinct : (new.map (·.1)).Nodup)
    (change : ∀ n, FieldPatched (lookup old n) (lookup new n) (lookup given n) (result n)) :
    ∃ given', patched? (.object given) (diff (.object old) (.object new)) = some (.object given') ∧
      ∀ n, lookup given' n = result n := by
  have none_removed : (old.filter fun f => (lookup new f.1).isNone) = [] := by
    rw [List.filter_eq_nil_iff]
    intro f h missing
    have standing := change f.1
    rw [Option.isNone_iff_eq_none.1 missing] at standing
    exact lookup_eq_none_iff.1 standing.of_missing.1 f h rfl
  have each : ∀ f ∈ new,
      FieldPatched (lookup old f.1) (some f.2) (lookup given f.1) (result f.1) := by
    intro f h
    rw [← lookup_of_mem distinct h]
    exact change f.1
  obtain ⟨given', all, lookups⟩ := patched?_diffFields distinct each
  refine ⟨given', ?_, fun n => ?_⟩
  · rw [diff, diffAt, none_removed, List.map_nil, List.append_nil]
    exact all
  · rw [lookups]
    split_ifs with listed
    · rfl
    · have missing : lookup new n = none := by
        rw [lookup_eq_none_iff]
        intro f h same
        exact listed (List.mem_map.2 ⟨f, h, same⟩)
      have standing := change n
      rw [missing] at standing
      exact standing.of_missing.2.symm

/-- A patch below a name cannot be carried out without the field. -/
lemma patched?_under_missing {ops : Patch} (inside : ∀ op ∈ ops, op.Inside) (some_op : ops ≠ [])
    {fields : Fields} {name : String} (missing : lookup fields name = none) :
    patched? (.object fields) (ops.map (.under name)) = none := by
  cases ops with
  | nil => exact absurd rfl some_op
  | cons op rest =>
    have stuck : (op.under name).patched? (.object fields) = none := by
      rw [Operation.patched?_under (inside op List.mem_cons_self), child?, missing]
      rfl
    rw [List.map_cons, patched?, List.foldlM_cons, stuck]
    rfl

/-- A patch below a name leaves an object with its other fields. -/
lemma lookup_of_patched?_under {ops : Patch} (inside : ∀ op ∈ ops, op.Inside) {fields : Fields}
    {name : String} {j : Json} (done : patched? (.object fields) (ops.map (.under name)) = some j) :
    ∃ fields', j = .object fields' ∧ ∀ n, name ≠ n → lookup fields' n = lookup fields n := by
  induction ops generalizing fields with
  | nil =>
    obtain rfl := Option.some.inj done
    exact ⟨fields, rfl, fun _ _ => rfl⟩
  | cons op ops ih =>
    rw [List.map_cons, patched?, List.foldlM_cons] at done
    obtain ⟨next, first, rest⟩ := Option.bind_eq_some_iff.1 done
    rw [Operation.patched?_under (inside op List.mem_cons_self)] at first
    obtain ⟨old, found, first⟩ := Option.bind_eq_some_iff.1 first
    obtain ⟨new, -, first⟩ := Option.bind_eq_some_iff.1 first
    have found : lookup fields name = some old := found
    obtain rfl : Json.object (put fields name new) = next := by
      simpa [replacePart, found] using first
    obtain ⟨fields', rfl, lookups⟩ := ih (fun op h => inside op (List.mem_cons_of_mem _ h)) rest
    refine ⟨fields', rfl, fun n other => ?_⟩
    rw [lookups n other, lookup_put, if_neg other]

/-- What is done to one field does not make up for another one that is missing. -/
lemma missing_of_patched?_field {old given : Fields} {n name : String} (other : n ≠ name)
    {new j : Json} (missing : lookup given name = none)
    (done : patched? (.object given) (fieldDiff old n new) = some j) :
    ∃ given', j = .object given' ∧ lookup given' name = none := by
  cases there : lookup old n with
  | none =>
    rw [fieldDiff_of_missing there] at done
    obtain rfl := Option.some.inj done
    exact ⟨put given n new, rfl, by rw [lookup_put, if_neg other, missing]⟩
  | some w =>
    rw [fieldDiff_of_present there] at done
    obtain ⟨given', rfl, lookups⟩ := lookup_of_patched?_under inside_of_mem_diff done
    exact ⟨given', rfl, by rw [lookups name other, missing]⟩

lemma patched?_diffFields_missing {old fields given : Fields} {name : String} {w v : Json}
    (distinct : (fields.map (·.1)).Nodup) (there : lookup old name = some w)
    (listed : (name, v) ∈ fields) (differs : diff w v ≠ [])
    (missing : lookup given name = none) :
    patched? (.object given) (diffFields [] old fields) = none := by
  induction fields generalizing given with
  | nil => cases listed
  | cons f rest ih =>
    obtain ⟨n, u⟩ := f
    obtain ⟨fresh, distinct⟩ := List.nodup_cons.1 distinct
    rw [diffFields_nil_cons, patched?_append, Option.bind_eq_none_iff]
    intro j done
    rcases List.mem_cons.1 listed with same | listed
    · obtain ⟨rfl, rfl⟩ := Prod.mk.inj same
      rw [fieldDiff_of_present there,
        patched?_under_missing inside_of_mem_diff differs missing] at done
      cases done
    · have other : n ≠ name := fun same => fresh (List.mem_map.2 ⟨_, listed, same.symm⟩)
      obtain ⟨given', rfl, missing⟩ := missing_of_patched?_field other missing done
      exact ih distinct listed missing

/-- A patch that changes what is inside of a field cannot be carried out where the field is
missing. -/
theorem patched?_diff_missing {old new given : Fields} {name : String} {w v : Json}
    (distinct : (new.map (·.1)).Nodup) (there : lookup old name = some w)
    (there' : lookup new name = some v) (differs : diff w v ≠ [])
    (missing : lookup given name = none) :
    patched? (.object given) (diff (.object old) (.object new)) = none := by
  rw [diff, diffAt, patched?_append,
    patched?_diffFields_missing distinct there (mem_of_lookup there') differs missing]
  rfl

/-! ## Items -/

/-- An index is read again from its text. -/
lemma index?_toString (i : Nat) : index? (toString i) = some i := by
  have digits : (toString i).toList = Nat.toDigits 10 i := Nat.toList_repr
  have all_digits : (Nat.toDigits 10 i).all Char.isDigit = true :=
    List.all_eq_true.2 fun c h => Nat.isDigit_of_mem_toDigits (by decide) (by decide) h
  have not_padded : ¬((Nat.toDigits 10 i).head? = some '0' ∧ 1 < (Nat.toDigits 10 i).length) := by
    rintro ⟨zero, long⟩
    by_cases h : i = 0
    · subst h
      exact absurd long (by decide)
    · exact head?_toDigits h zero
  simp only [index?, digits, foldl_digits, Nat.ofDigitChars_ten_toDigits]
  simp [all_digits, not_padded]

lemma toString_ne_dash (i : Nat) : toString i ≠ "-" := by
  intro same
  have unread : index? "-" = none := by decide
  rw [← same, index?_toString] at unread
  cases unread

/-- A patch below an index changes the item at this index and no other. -/
lemma patched?_under_index {ops : Patch} (inside : ∀ op ∈ ops, op.Inside) {items : List Json}
    {part : String} {i : Nat} {old new : Json} (named : index? part = some i)
    (found : items[i]? = some old) (done : patched? old ops = some new) :
    patched? (.array items) (ops.map (.under part)) = some (.array (items.set i new)) := by
  induction ops generalizing items old with
  | nil =>
    obtain rfl := Option.some.inj done
    obtain ⟨bound, rfl⟩ := List.getElem?_eq_some_iff.1 found
    rw [List.set_getElem_self]
    rfl
  | cons op ops ih =>
    obtain ⟨next, first, rest⟩ := Option.bind_eq_some_iff.1 done
    have bound : i < items.length := (List.getElem?_eq_some_iff.1 found).1
    have step : (op.under part).patched? (.array items) = some (.array (items.set i next)) := by
      rw [Operation.patched?_under (inside op List.mem_cons_self)]
      simp only [child?, named, found, Option.bind_eq_bind, Option.bind_some, first]
      simp [replacePart, named, bound]
    have still : (items.set i next)[i]? = some next := by simp [bound]
    have all := ih (fun op h => inside op (List.mem_cons_of_mem _ h)) still rest
    rw [List.set_set] at all
    rw [List.map_cons, patched?, List.foldlM_cons, step]
    exact all

/-- How the items go when lists are compared and the patch is carried out on a third: each item
of the first list is changed to that of the second, and what the second has more is added. -/
inductive ItemsPatched : List Json → List Json → List Json → List Json → Prop where
  /-- Items are added at the end. -/
  | added (more : List Json) : ItemsPatched [] more [] more
  /-- The difference is made to the item given. -/
  | changed {old new given result : Json} {olds news givens results : List Json}
    (done : patched? given (diff old new) = some result)
    (rest : ItemsPatched olds news givens results) :
    ItemsPatched (old :: olds) (new :: news) (given :: givens) (result :: results)

lemma patched?_added (front more : List Json) :
    patched? (.array front) (diffItems [] front.length [] more) =
      some (.array (front ++ more)) := by
  induction more generalizing front with
  | nil => simp [diffItems, patched?]
  | cons v rest ih =>
    have step : (Operation.add [toString front.length] v).patched? (.array front) =
        some (.array (front ++ [v])) := by
      simp only [Operation.patched?, List.getLast?_singleton, List.dropLast_singleton, modifyAt,
        insertPart, if_neg (toString_ne_dash _), index?_toString]
      simp
    rw [diffItems, List.nil_append, patched?, List.foldlM_cons, step]
    have all := ih (front ++ [v])
    rw [List.length_append, List.append_assoc] at all
    exact all

lemma patched?_diffItems {old new given result : List Json}
    (change : ItemsPatched old new given result) (front : List Json) :
    patched? (.array (front ++ given)) (diffItems [] front.length old new) =
      some (.array (front ++ result)) := by
  induction change generalizing front with
  | added more => rw [List.append_nil, patched?_added]
  | @changed old new given result olds news givens results done rest ih =>
    have found : (front ++ given :: givens)[front.length]? = some given := by simp
    have first := patched?_under_index inside_of_mem_diff (index?_toString _) found done
    have all := ih (front ++ [result])
    rw [List.length_append, List.append_assoc, List.append_assoc] at all
    rw [diffItems, List.nil_append, diffAt_single, patched?_append, first, Option.bind_some]
    simpa using all

/-- A patch that is found between lists can be carried out on a third one item by item. -/
theorem patched?_diff_array {old new given result : List Json}
    (change : ItemsPatched old new given result) :
    patched? (.array given) (diff (.array old) (.array new)) = some (.array result) :=
  patched?_diffItems change []

/-! ## No difference -/

/-- No difference is found between a value and itself. -/
def Undiffered (j : Json) : Prop := ∀ path, diffAt path j j = []

lemma undiffered_array {items : List Json} (h : ∀ j ∈ items, Undiffered j) :
    Undiffered (.array items) := by
  intro path
  have each : ∀ i, diffItems path i items items = [] := by
    induction items with
    | nil => intro i; rfl
    | cons j rest ih =>
      intro i
      rw [diffItems, h j List.mem_cons_self, ih fun k hk => h k (List.mem_cons_of_mem _ hk)]
      rfl
  exact each 0

lemma undiffered_object {fields : Fields} (distinct : (fields.map (·.1)).Nodup)
    (h : ∀ f ∈ fields, Undiffered f.2) : Undiffered (.object fields) := by
  intro path
  have each : ∀ some_fields : Fields, some_fields ⊆ fields →
      diffFields path fields some_fields = [] := by
    intro some_fields
    induction some_fields with
    | nil => intro _; rfl
    | cons f rest ih =>
      obtain ⟨n, v⟩ := f
      intro all
      obtain ⟨mem, rest_mem⟩ := List.cons_subset.1 all
      rw [diffFields, lookup_of_mem distinct mem, ih rest_mem]
      simpa using h _ mem (path ++ [n])
  have none_removed : (fields.filter fun f => (lookup fields f.1).isNone) = [] := by
    rw [List.filter_eq_nil_iff]
    intro f mem
    have found : lookup fields f.1 = some f.2 := lookup_of_mem distinct mem
    simp [found]
  rw [diffAt, each fields (List.Subset.refl _), none_removed]
  rfl

mutual

/-- No difference is found between a value in normal form and itself. -/
lemma undiffered_normalize : (j : Json) → Undiffered j.normalize
  | .array items => undiffered_array (undiffered_normalizeItems items)
  | .object fields =>
    undiffered_object (distinct_normalize fields)
      (undiffered_normalizeFields fields [] fun _ h => nomatch h)
  | .null | .bool _ | .number _ | .string _ => fun path => by simp [normalize, diffAt]

lemma undiffered_normalizeItems : (items : List Json) → ∀ j ∈ normalizeItems items, Undiffered j
  | j :: rest, k, h => by
    rcases List.mem_cons.1 h with rfl | h
    · exact undiffered_normalize j
    · exact undiffered_normalizeItems rest k h

lemma undiffered_normalizeFields : (fields : List (String × Json)) → ∀ done : Fields,
    (∀ f ∈ done, Undiffered f.2) → ∀ f ∈ normalizeFields done fields, Undiffered f.2
  | [], _, before, f, h => before f h
  | (n, v) :: rest, done, before, f, h => by
    refine undiffered_normalizeFields rest (setOrdered done n v.normalize) (fun g entered => ?_) f h
    rcases eq_or_mem_of_mem_setOrdered entered with rfl | entered
    · exact undiffered_normalize v
    · exact before g entered

end

lemma diff_normalize_self (j : Json) : diff j.normalize j.normalize = [] :=
  undiffered_normalize j []

end CredentialOperator.Json
