import CredentialOperator.Proofs.Admission.Equipment
import CredentialOperator.Proofs.Json.Retouched
import Mathlib.Data.List.Nodup

/-!
# The patch of a pod

The patch is found between the pod that was read and the same pod with its credentials, both
written in full.  It is carried out on the value that was sent, in which fields may be missing,
`null` or unknown.  Field by field (`Json.FieldPatched`) the difference can be made to that value
too, and what comes out is the pod that was sent with its credentials (`Pod.patched`).
-/

namespace CredentialOperator

open Json (appended AlikeBut EachItem itemsOf)

/-! ## The patch, field by field -/

namespace Json

variable {α : Type} {read : Json → Option α}

/-- A field in normal form that does not change is left as it is in any other object. -/
lemma FieldPatched.same (o given : Option Json) :
    FieldPatched (o.map normalize) (o.map normalize) given given := by
  cases o with
  | none => exact .absent given
  | some j => exact .kept (diff_normalize_self j) given

/-- A patch between normal forms of objects is carried out field by field. -/
lemma patched?_diff_normalize {old new given : Fields} {result : String → Option Json}
    (change : ∀ n, FieldPatched ((lookup old n).map normalize) ((lookup new n).map normalize)
      (lookup given n) (result n)) :
    ∃ given', patched? (.object given) (diff (Json.object old).normalize
      (Json.object new).normalize) = some (.object given') ∧ ∀ n, lookup given' n = result n := by
  apply patched?_diff_object (distinct_normalize new)
  intro n
  rw [lookup_normalize, lookup_normalize]
  exact change n

/-- A patch between two objects that differ in some fields is carried out on these fields of any
other object, and leaves the rest of it as it is. -/
lemma patched?_diff_fields {x y : Json} (given : Fields)
    (objects : (∃ old, x = .object old) ∧ ∃ new, y = .object new)
    (changes : List (String × Option Json)) (distinct : (changes.map (·.1)).Nodup)
    (same : ∀ n ∉ changes.map (·.1), y.get? n = x.get? n)
    (change : ∀ c ∈ changes, FieldPatched ((x.get? c.1).map normalize)
      ((y.get? c.1).map normalize) (lookup given c.1) c.2) :
    ∃ r, patched? (.object given) (diff x.normalize y.normalize) = some r ∧
      AlikeBut (changes.map (·.1)) (.object given) r ∧ ∀ c ∈ changes, r.get? c.1 = c.2 := by
  obtain ⟨⟨old, rfl⟩, new, rfl⟩ := objects
  -- each name has one result: the one that is listed, or what is there already
  have each : ∀ n, ∃ y, FieldPatched ((lookup old n).map normalize) ((lookup new n).map normalize)
      (lookup given n) y ∧
      (n ∉ changes.map (·.1) → y = lookup given n) ∧ ∀ c ∈ changes, c.1 = n → y = c.2 := by
    intro n
    by_cases changed : n ∈ changes.map (·.1)
    · obtain ⟨c, listed, rfl⟩ := List.mem_map.1 changed
      refine ⟨c.2, change c listed, fun other => absurd changed other, fun c' listed' name => ?_⟩
      rw [List.inj_on_of_nodup_map distinct listed' listed name]
    · have unchanged : lookup new n = lookup old n := same n changed
      refine ⟨lookup given n, ?_, fun _ => rfl, ?_⟩
      · rw [unchanged]
        exact .same _ _
      · rintro c listed rfl
        exact absurd (List.mem_map.2 ⟨c, listed, rfl⟩) changed
  choose result patched others found using each
  obtain ⟨given', done, lookups⟩ := patched?_diff_normalize patched
  refine ⟨.object given', done, ⟨given, given', rfl, rfl, fun n other => ?_⟩, fun c listed => ?_⟩
  · rw [lookups, others n other]
  · exact (lookups c.1).trans (found c.1 c listed rfl)

lemma ItemsPatched.extended {olds givens : List Json} (unchanged : ∀ j ∈ olds, diff j j = [])
    (together : olds.length = givens.length) (more : List Json) :
    ItemsPatched olds (olds ++ more) givens (givens ++ more) := by
  induction olds generalizing givens with
  | nil =>
    obtain rfl := List.length_eq_zero_iff.1 together.symm
    exact .added more
  | cons j olds ih =>
    cases givens with
    | nil => cases together
    | cons i givens =>
      refine .changed ?_ (ih (fun k h => unchanged k (List.mem_cons_of_mem _ h))
        (Nat.succ.inj together))
      rw [unchanged j List.mem_cons_self]
      rfl

/-- The items that a list in a field gets at its end are added to the list that was sent. -/
lemma FieldPatched.extended (write : α → Json) {x : Option Json} {o : Option (List α)}
    (given : Given (fun i => list? read i.normalize) x o) (more : List α) :
    FieldPatched ((o.map fun as => Json.array (as.map write)).map normalize)
      (((extendList o more).map fun as => Json.array (as.map write)).map normalize) x
      (appended x (more.map fun a => (write a).normalize)) := by
  cases more with
  | nil => exact .same _ _
  | cons a rest =>
    have some_more : (a :: rest).map (fun a => (write a).normalize) ≠ [] := List.cons_ne_nil _ _
    generalize hm : a :: rest = more at some_more ⊢
    have extended : extendList o more = some (o.getD [] ++ more) := by
      rw [← hm]; rfl
    have result : ∀ items, itemsOf x = items → appended x (more.map fun a => (write a).normalize) =
        some (.array (items ++ more.map fun a => (write a).normalize)) := by
      rintro _ rfl
      rw [appended, if_neg some_more]
    have written : ∀ as : List α, (Json.array (as.map write)).normalize =
        .array (as.map fun a => (write a).normalize) := by
      intro as
      rw [normalize, normalizeItems_eq_map, List.map_map]
      rfl
    rw [extended]
    cases given with
    | missing =>
      rw [result [] rfl, Option.map_some, Option.map_some, written]
      exact .added _ _
    | null =>
      rw [result [] rfl, Option.map_some, Option.map_some, written]
      exact .added _ _
    | @value j as value =>
      obtain ⟨items, rfl, each⟩ := items_of_normalized value
      rw [result items rfl]
      rw [Option.map_some, Option.map_some, Option.map_some, Option.map_some, Option.getD_some,
        written, written, List.map_append]
      refine .changed (patched?_diff_array (.extended ?_ ?_ _))
      · intro k h
        obtain ⟨b, -, rfl⟩ := List.mem_map.1 h
        exact diff_normalize_self (write b)
      · rw [List.length_map, each.length_eq]

lemma forall₂_patched {write : α → Json} {change : α → α} {P : Json → Json → Prop}
    {items : List Json} {as : List α}
    (each : List.Forall₂ (fun i a => read i.normalize = some a) items as)
    (done : ∀ i a, read i.normalize = some a → ∃ r,
      patched? i (diff (write a).normalize (write (change a)).normalize) = some r ∧ P i r) :
    ∃ results, ItemsPatched (as.map fun a => (write a).normalize)
      (as.map fun a => (write (change a)).normalize) items results ∧
      List.Forall₂ P items results := by
  induction each with
  | nil => exact ⟨[], .added [], .nil⟩
  | cons first _ ih =>
    obtain ⟨r, patch, changed⟩ := done _ _ first
    obtain ⟨results, patches, all⟩ := ih
    exact ⟨r :: results, .changed patch patches, .cons changed all⟩

/-- Changes of the items of a list are made to the items that were sent. -/
lemma FieldPatched.each (write : α → Json) {x : Option Json} {o : Option (List α)} {change : α → α}
    {P : Json → Json → Prop} (given : Given (fun i => list? read i.normalize) x o)
    (done : ∀ i a, read i.normalize = some a → ∃ r,
      patched? i (diff (write a).normalize (write (change a)).normalize) = some r ∧ P i r) :
    ∃ y, FieldPatched ((o.map fun as => Json.array (as.map write)).map normalize)
      (((o.map (List.map change)).map fun as => Json.array (as.map write)).map normalize) x y ∧
      EachItem P x y := by
  cases given with
  | missing => exact ⟨none, .absent none, rfl⟩
  | null => exact ⟨some .null, .absent _, rfl⟩
  | value value =>
    obtain ⟨items, rfl, each⟩ := items_of_normalized value
    obtain ⟨results, patches, all⟩ := forall₂_patched each done
    refine ⟨some (.array results), ?_, results, rfl, all⟩
    simp only [Option.map_some, normalize, normalizeItems_eq_map, List.map_map]
    exact .changed (patched?_diff_array patches)

end Json

/-! ## The patch of a pod -/

namespace Container

lemma get?_toJson (c : Container) (n : String) : c.toJson.get? n =
    (Json.lookup c.others n).or
      ((if "volumeMounts" = n then
          c.volumeMounts.map fun ms => .array (ms.map VolumeMount.toJson) else none).or
        ((if "env" = n then c.env.map fun vs => .array (vs.map EnvVar.toJson) else none).or
          (if "name" = n then some (.string c.name) else none))) := by
  simp only [toJson, Json.get?, Json.lookup_append, Json.lookup_entry, Json.lookup_optionalEntry]

/-- The patch gives a container that was sent what the one that was read is given. -/
lemma patched {j : Json} {c : Container} (read : ofJson? j.normalize = some c)
    (grants : List Grant) : ∃ r,
      Json.patched? j (Json.diff c.toJson.normalize (c.equip grants).toJson.normalize) = some r ∧
        ContainerInjected grants j r := by
  obtain ⟨fields, rfl, env, mounts, apart⟩ := given read
  have env_patched := Json.FieldPatched.extended EnvVar.toJson env (grants.flatMap Grant.envVars)
  have mounts_patched := Json.FieldPatched.extended VolumeMount.toJson mounts
    (grants.filterMap Grant.mount?)
  rw [normalize_env] at env_patched
  rw [normalize_mounts] at mounts_patched
  have same : ∀ n ∉ ["env", "volumeMounts"], (c.equip grants).toJson.get? n = c.toJson.get? n := by
    intro n other
    simp only [List.mem_cons, List.not_mem_nil, or_false, not_or, eq_comm (a := n)] at other
    simp only [get?_toJson, if_neg other.1, if_neg other.2, equip]
  obtain ⟨r, done, others, found⟩ := Json.patched?_diff_fields fields
    (x := c.toJson) (y := (c.equip grants).toJson) ⟨⟨_, rfl⟩, _, rfl⟩
    [("env", appended (Json.lookup fields "env") (grants.flatMap Grant.envEntries)),
      ("volumeMounts",
        appended (Json.lookup fields "volumeMounts") (grants.filterMap Grant.mountEntry?))]
    (by simp) same
    (by simpa [get?_toJson, apart, equip] using And.intro env_patched mounts_patched)
  obtain ⟨env_found, found⟩ := List.forall_mem_cons.1 found
  obtain ⟨mounts_found, -⟩ := List.forall_mem_cons.1 found
  exact ⟨r, done, others, env_found, mounts_found⟩

end Container

namespace PodSpec

lemma get?_toJson (s : PodSpec) (n : String) : s.toJson.get? n =
    (Json.lookup s.others n).or
      ((if "volumes" = n then s.volumes.map fun vs => .array (vs.map Volume.toJson) else none).or
        ((if "initContainers" = n then
            s.initContainers.map fun cs => .array (cs.map Container.toJson) else none).or
          (if "containers" = n then some (.array (s.containers.map Container.toJson))
            else none))) := by
  simp only [toJson, Json.get?, Json.lookup_append, Json.lookup_entry, Json.lookup_optionalEntry]

/-- The names of the volumes are those that were sent. -/
lemma volumeNames_given {x : Option Json} {vs : Option (List Volume)}
    (volumes : Json.Given (fun i => Json.list? Volume.ofJson? i.normalize) x vs) :
    (vs.getD []).map (·.name) = (itemsOf x).map (Json.textAt "name") := by
  cases volumes with
  | missing => rfl
  | null => rfl
  | value value =>
    obtain ⟨items, rfl, each⟩ := Json.items_of_normalized value
    rw [Option.getD_some, itemsOf]
    clear value
    induction each with
    | nil => rfl
    | cons first _ ih => rw [List.map_cons, List.map_cons, ih, Volume.name_given first]

lemma containers_patched {x : Option Json} {cs : Option (List Container)}
    (containers : Json.Given (fun i => Json.list? Container.ofJson? i.normalize) x cs)
    (grants : List Grant) : ∃ y,
      Json.FieldPatched ((cs.map fun cs => Json.array (cs.map Container.toJson)).map Json.normalize)
        (((cs.map (List.map (·.equip grants))).map fun cs =>
          Json.array (cs.map Container.toJson)).map Json.normalize) x y ∧
      EachItem (ContainerInjected grants) x y :=
  Json.FieldPatched.each Container.toJson containers fun _ _ read => Container.patched read grants

/-- The patch gives the containers and volumes that were sent what those that were read are
given. -/
lemma patched {j : Json} {s : PodSpec} (read : ofJson? j.normalize = some s)
    (grants : List Grant) : ∃ r,
      Json.patched? j (Json.diff s.toJson.normalize (s.equip grants).toJson.normalize) = some r ∧
        SpecInjected grants j r := by
  obtain ⟨fields, rfl, ⟨cs, given, listed⟩, initContainers, volumes, apart⟩ := PodSpec.given read
  obtain ⟨inits, inits_patched, inits_each⟩ := containers_patched initContainers grants
  -- a list of containers is written in any case
  obtain ⟨conts, conts_patched, conts_each⟩ : ∃ y,
      Json.FieldPatched (some (Json.array (s.containers.map Container.toJson)).normalize)
        (some (Json.array ((s.containers.map (·.equip grants)).map Container.toJson)).normalize)
        (Json.lookup fields "containers") y ∧
      EachItem (ContainerInjected grants) (Json.lookup fields "containers") y := by
    cases cs with
    | some cs =>
      obtain rfl : s.containers = cs := listed
      exact containers_patched given grants
    | none =>
      rw [show s.containers = [] from listed]
      refine ⟨_, .same (some (Json.array [])) _, ?_⟩
      generalize Json.lookup fields "containers" = x at given
      cases given <;> rfl
  have volumes_patched := Json.FieldPatched.extended Volume.toJson volumes
    (newVolumes ((s.volumes.getD []).map (·.name)) grants)
  rw [normalize_newVolumes, volumeNames_given volumes] at volumes_patched
  have same : ∀ n ∉ ["containers", "initContainers", "volumes"],
      (s.equip grants).toJson.get? n = s.toJson.get? n := by
    intro n other
    simp only [List.mem_cons, List.not_mem_nil, or_false, not_or, eq_comm (a := n)] at other
    simp only [get?_toJson, if_neg other.1, if_neg other.2.1, if_neg other.2.2, equip]
  obtain ⟨r, done, others, found⟩ := Json.patched?_diff_fields fields
    (x := s.toJson) (y := (s.equip grants).toJson) ⟨⟨_, rfl⟩, _, rfl⟩
    [("containers", conts), ("initContainers", inits),
      ("volumes", appended (Json.lookup fields "volumes") (volumeEntries
        ((itemsOf (Json.lookup fields "volumes")).map (Json.textAt "name")) grants))]
    (by simp) same
    (by simpa [get?_toJson, apart, equip, volumeNames_given volumes] using
      And.intro conts_patched (And.intro inits_patched volumes_patched))
  obtain ⟨conts_found, found⟩ := List.forall_mem_cons.1 found
  obtain ⟨inits_found, found⟩ := List.forall_mem_cons.1 found
  obtain ⟨volumes_found, -⟩ := List.forall_mem_cons.1 found
  refine ⟨r, done, others, ?_, ?_, volumes_found⟩
  · rw [conts_found]
    exact conts_each
  · rw [inits_found]
    exact inits_each

end PodSpec

namespace Json

/-- A field that may have been set is read as what stands there, if all of it could be read. -/
lemma Retouched.lenient_eq {α : Type} {read : Json → Option α} {names : List String}
    {xs ys : Fields} (h : Retouched names xs ys) {n : String} {before o : Option α} {v : Json}
    (readable : lenient xs n read = some before) (stands : lookup ys n = some v)
    (value : nullable? read v = some o) : lenient ys n read = some o := by
  rcases h.single n with same | once
  · have unchanged : lenient ys n read = some before := (lenient_congr same).trans readable
    rcases last_of_lenient unchanged with ⟨missing, -⟩ | ⟨w, found, last⟩
    · rw [stands] at missing
      cases missing
    · obtain rfl : v = w := Option.some.inj (stands.symm.trans found)
      rw [unchanged, ← last, value]
  · rw [stands] at once
    rw [lenient_of_single once, value]

/-- A text that is set takes the place of another. -/
lemma FieldPatched.text (old : Option String) (new : String) :
    FieldPatched ((old.map string).map normalize) ((some (string new)).map normalize)
      (old.map string) (some (string new)) := by
  cases old with
  | none => exact .added _ _
  | some s =>
    refine .changed ?_
    by_cases same : s = new
    · simp [diff, diffAt, normalize, same, patched?]
    · simp [diff, diffAt, normalize, same, patched?, Operation.patched?]

end Json

namespace Metadata

lemma get?_toJson_annotations (m : Metadata) (notes : Option StringMap) (n : String) :
    ({ m with annotations := notes } : Metadata).toJson.get? n =
      if n = "annotations" then notes.map Json.ofStringMap else m.toJson.get? n := by
  simp only [toJson, Json.get?, Json.lookup_append, Json.lookup_optionalEntry]
  by_cases h : n = "annotations"
  · subst h
    simp
  · simp [h, Ne.symm h]

lemma lookup_ofStringMap (m : StringMap) : ∃ fields, Json.ofStringMap m = .object fields ∧
    ∀ n, Json.lookup fields n = m[n]?.map .string :=
  ⟨_, rfl, fun n => (Json.getElem?_of_stringMap? (Json.stringMap?_ofStringMap m) n).symm⟩

/-- Texts of which some may have been set are read as what is found. -/
lemma stringMap?_retouched {fields fields' : Fields} {names : List String} {old new : StringMap}
    (touched : Json.Retouched names fields fields')
    (read : Json.stringMap? (.object fields) = some old)
    (found : ∀ n, Json.lookup fields' n = new[n]?.map .string) :
    Json.stringMap? (.object fields') = some new := by
  refine Json.stringMap?_of_texts (fun f hf => ?_) found
  rcases touched.mem hf with stood | ⟨-, set⟩
  · exact Json.texts_of_stringMap? read f stood
  · rw [found] at set
    obtain ⟨s, -, text⟩ := Option.map_eq_some_iff.1 set
    exact ⟨s, text.symm⟩

/-- Where there were no annotations all new ones are added. -/
lemma annotations_added (new : StringMap) :
    ∃ notes, (Json.ofStringMap new).normalize = .object notes ∧
      (∀ n, Json.lookup notes n = new[n]?.map .string) ∧
      Json.stringMap? (.object notes) = some new := by
  obtain ⟨fields, written, found⟩ := lookup_ofStringMap new
  have found' : ∀ n, Json.lookup (Json.normalizeFields [] fields) n = new[n]?.map .string := by
    intro n
    rw [Json.lookup_normalize, found, Option.map_map]
    rfl
  refine ⟨_, congrArg Json.normalize written, found',
    Json.stringMap?_of_texts (fun f hf => ?_) found'⟩
  have stands := Json.lookup_of_mem (Json.distinct_normalize fields) hf
  rw [found'] at stands
  obtain ⟨s, -, text⟩ := Option.map_eq_some_iff.1 stands
  exact ⟨s, text.symm⟩

/-- Annotations that are set take the places of those that were sent. -/
lemma annotations_changed {fields : Fields} {old new : StringMap} {marks : List String}
    (read : Json.stringMap? (.object fields) = some old) (set : ∀ n ∈ marks, new[n]?.isSome)
    (kept : ∀ n ∉ marks, new[n]? = old[n]?) :
    ∃ notes, Json.patched? (.object fields) (Json.diff (Json.ofStringMap old).normalize
        (Json.ofStringMap new).normalize) = some (.object notes) ∧
      (∀ n, Json.lookup notes n = new[n]?.map .string) ∧
      Json.stringMap? (.object notes) = some new := by
  obtain ⟨olds, written_old, found_old⟩ := lookup_ofStringMap old
  obtain ⟨news, written, found⟩ := lookup_ofStringMap new
  have sent := fun n => Json.getElem?_of_stringMap? read n
  have change : ∀ n, Json.FieldPatched ((Json.lookup olds n).map Json.normalize)
      ((Json.lookup news n).map Json.normalize) (Json.lookup fields n) (new[n]?.map .string) := by
    intro n
    rw [found, found_old, ← sent]
    by_cases mark : n ∈ marks
    · obtain ⟨v, new_value⟩ := Option.isSome_iff_exists.1 (set n mark)
      rw [new_value]
      exact .text _ v
    · rw [kept n mark]
      exact .same _ _
  rw [written_old, written]
  obtain ⟨notes, done, lookups⟩ := Json.patched?_diff_normalize change
  have same : ∀ n ∉ marks, (Json.object news).get? n = (Json.object olds).get? n := by
    intro n other
    rw [Json.get?, Json.get?, found, found_old, kept n other]
  obtain ⟨_, patched_object, touched⟩ :=
    Json.retouched_of_diff ⟨⟨olds, rfl⟩, news, rfl⟩ same done
  obtain rfl := Json.object.inj patched_object
  exact ⟨notes, done, lookups, stringMap?_retouched touched read lookups⟩

/-- Annotations that are set take the places of those that were sent, if there were any, and are
read so. -/
lemma annotations_patched {x : Option Json} {old : Option StringMap}
    (given : Json.Given Json.stringMap? x old) {new : StringMap} {marks : List String}
    (set : ∀ n ∈ marks, new[n]?.isSome) (kept : ∀ n ∉ marks, new[n]? = (old.getD ∅)[n]?) :
    ∃ notes, Json.FieldPatched ((old.map Json.ofStringMap).map Json.normalize)
        (some (Json.ofStringMap new).normalize) x (some (.object notes)) ∧
      (∀ n, Json.lookup notes n = if n ∈ marks then new[n]?.map .string else x.bind (·.get? n)) ∧
      Json.stringMap? (.object notes) = some new := by
  have placed : ∀ {notes : Fields}, (∀ n, Json.lookup notes n = new[n]?.map .string) →
      (∀ n, ((old.getD ∅)[n]?).map .string = x.bind (·.get? n)) →
      ∀ n, Json.lookup notes n = if n ∈ marks then new[n]?.map .string else x.bind (·.get? n) := by
    intro notes found sent n
    rw [found]
    split_ifs with mark
    · rfl
    · rw [kept n mark, sent]
  cases given with
  | missing =>
    obtain ⟨notes, written, found, read⟩ := annotations_added new
    rw [written]
    exact ⟨notes, .added _ _, placed found (by simp), read⟩
  | null =>
    obtain ⟨notes, written, found, read⟩ := annotations_added new
    rw [written]
    exact ⟨notes, .added _ _, placed found (by simp [Json.get?]), read⟩
  | @value j a value =>
    cases j with
    | object fields =>
      obtain ⟨notes, done, found, read⟩ := annotations_changed value set kept
      exact ⟨notes, .changed done, placed found (Json.getElem?_of_stringMap? value), read⟩
    | _ => cases value

/-- The annotations with the marks for some grants. -/
def markedAnnotations (m : Metadata) (grants : List Grant) : StringMap :=
  ((m.annotations.getD ∅).insert injectedProvidersMark
    (",".intercalate (grants.map (·.spec.provider)))).insert injectionStatusMark injectedValue

lemma getElem?_markedAnnotations (m : Metadata) (grants : List Grant) (n : String) :
    (m.markedAnnotations grants)[n]? =
      if n = injectionStatusMark then some injectedValue
      else if n = injectedProvidersMark then
        some (",".intercalate (grants.map (·.spec.provider)))
      else (m.annotations.getD ∅)[n]? := by
  rw [markedAnnotations, Std.ExtTreeMap.getElem?_insert, Std.ExtTreeMap.getElem?_insert]
  simp only [Std.LawfulEqCmp.compare_eq_iff_eq, eq_comm (b := n)]

/-- The patch sets the marks among the annotations that were sent, and the metadata are read with
them. -/
lemma patched {parts : Fields} {m : Metadata}
    (given : Json.Given Json.stringMap? (Json.lookup parts "annotations") m.annotations)
    (grants : List Grant) : ∃ r,
      Json.patched? (.object parts) (Json.diff m.toJson.normalize
        { m with annotations := some (m.markedAnnotations grants) }.toJson.normalize) = some r ∧
        MetadataMarked grants (.object parts) r ∧
        ∀ m₀, ofJson? (.object parts) = some m₀ →
          ofJson? r = some { m₀ with annotations := some (m.markedAnnotations grants) } := by
  have set : ∀ n ∈ [injectionStatusMark, injectedProvidersMark],
      (m.markedAnnotations grants)[n]?.isSome := by
    simp [getElem?_markedAnnotations, apply_ite Option.isSome]
  have kept : ∀ n ∉ [injectionStatusMark, injectedProvidersMark],
      (m.markedAnnotations grants)[n]? = (m.annotations.getD ∅)[n]? := by
    intro n other
    simp only [List.mem_cons, List.not_mem_nil, or_false, not_or] at other
    simp [getElem?_markedAnnotations, other]
  obtain ⟨notes, notes_patched, notes_found, notes_read⟩ := annotations_patched given set kept
  have before : m.toJson.get? "annotations" = m.annotations.map Json.ofStringMap :=
    get?_toJson_annotations m m.annotations "annotations"
  have after := get?_toJson_annotations m (some (m.markedAnnotations grants))
  generalize ({ m with annotations := some (m.markedAnnotations grants) } : Metadata) = m'
    at after ⊢
  have same : ∀ n ∉ ["annotations"], m'.toJson.get? n = m.toJson.get? n := by
    intro n other
    rw [after, if_neg fun isNotes => other (List.mem_singleton.2 isNotes)]
  obtain ⟨r, done, others, found⟩ := Json.patched?_diff_fields parts
    (x := m.toJson) (y := m'.toJson) ⟨⟨_, rfl⟩, _, rfl⟩
    [("annotations", some (.object notes))] (by simp) same
    (by simpa [before, after] using notes_patched)
  have notes_there := found _ List.mem_cons_self
  refine ⟨r, done, ⟨others, notes, notes_there, fun n => ?_⟩, fun m₀ read => ?_⟩
  · rw [notes_found]
    simp only [List.mem_cons, List.not_mem_nil, or_false, getElem?_markedAnnotations]
    split_ifs <;> simp_all [Json.get?]
  · obtain ⟨parts', rfl, touched⟩ := Json.retouched_of_diff ⟨⟨_, rfl⟩, _, rfl⟩ same done
    refine ofJson?_annotated read (fun n other => ?_) ?_
    · exact touched.occurrences_eq fun isNotes => other (List.mem_singleton.1 isNotes)
    · refine touched.lenient_eq (ofJson?_eq_some.1 read).2.2.2.2.2.2.2.1 notes_there ?_
      rw [Json.nullable?_of_ne (by simp), notes_read]
      rfl

end Metadata

namespace Pod

lemma get?_toJson (p : Pod) (n : String) : p.toJson.get? n =
    (if "spec" = n then p.spec.map PodSpec.toJson else none).or
      ((if "metadata" = n then some p.metadata.toJson else none).or
        ((if "kind" = n then some (.string "Pod") else none).or
          (if "apiVersion" = n then some (.string "v1") else none))) := by
  simp only [toJson, Json.get?, Json.lookup_append, Json.lookup_entry, Json.lookup_optionalEntry]

/-- A pod with the credentials of some grants. -/
lemma injectAll_eq (p : Pod) (grants : List Grant) : p.injectAll grants =
    { metadata := { p.metadata with annotations := some (p.metadata.markedAnnotations grants) }
      spec := p.spec.map (·.equip grants) } := by
  rw [injectAll, foldl_inject]
  rfl

/-- With credentials the metadata and what the pod is made of are others, and nothing else. -/
lemma get?_injectAll (p : Pod) (grants : List Grant) : ∀ n ∉ ["metadata", "spec"],
    (p.injectAll grants).toJson.get? n = p.toJson.get? n := by
  intro n other
  simp only [List.mem_cons, List.not_mem_nil, or_false, not_or, eq_comm (a := n)] at other
  simp only [get?_toJson, if_neg other.1, if_neg other.2]

variable {top parts : Fields} {object : DynamicObject} {pod : Pod}

/-- The patch that was found on the pod that was read gives the pod that was sent the
credentials, and its metadata are read with the marks. -/
theorem patched (read : DynamicObject.ofJson? (.object top) = some object)
    (decodes : ofJson? object.toJson = some pod)
    (sent : Json.lookup top "metadata" = some (.object parts)) (grants : List Grant) :
    ∃ r, Json.patched? (.object top) (pod.injectionPatch grants) = some r ∧
      PodInjected grants (.object top) r ∧
      ∃ metadata, r.get? "metadata" = some metadata ∧ Metadata.ofJson? metadata = some
        { object.metadata with annotations := some (pod.metadata.markedAnnotations grants) } := by
  obtain ⟨metadata, metadata_patched, marked, marked_read⟩ :=
    Metadata.patched (annotations_given read decodes sent) grants
  obtain ⟨spec, spec_patched, spec_given⟩ : ∃ y,
      Json.FieldPatched ((pod.spec.map PodSpec.toJson).map Json.normalize)
        (((pod.spec.map (·.equip grants)).map PodSpec.toJson).map Json.normalize)
        (Json.lookup top "spec") y ∧
      ((Json.lookup top "spec" = none ∨ Json.lookup top "spec" = some .null) ∧
          y = Json.lookup top "spec" ∨
        ∃ s s', Json.lookup top "spec" = some s ∧ y = some s' ∧ SpecInjected grants s s') := by
    have given := spec_given read decodes
    generalize Json.lookup top "spec" = x, pod.spec = o at given
    cases given with
    | missing => exact ⟨none, .absent none, .inl ⟨.inl rfl, rfl⟩⟩
    | null => exact ⟨some .null, .absent _, .inl ⟨.inr rfl, rfl⟩⟩
    | value value =>
      obtain ⟨r, done, injected⟩ := PodSpec.patched value grants
      exact ⟨some r, .changed done, .inr ⟨_, r, rfl, rfl, injected⟩⟩
  obtain ⟨r, done, others, found⟩ := Json.patched?_diff_fields top
    (x := pod.toJson) (y := (pod.injectAll grants).toJson) ⟨⟨_, rfl⟩, _, rfl⟩
    [("metadata", some metadata), ("spec", spec)] (by simp) (pod.get?_injectAll grants)
    (by simpa [get?_toJson, sent, injectAll_eq] using
      And.intro (Json.FieldPatched.changed metadata_patched) spec_patched)
  obtain ⟨metadata_found, found⟩ := List.forall_mem_cons.1 found
  obtain ⟨spec_found, -⟩ := List.forall_mem_cons.1 found
  have given : PodInjected grants (.object top) r := by
    refine ⟨others, ⟨_, metadata, sent, metadata_found, marked⟩, ?_⟩
    rw [spec_found]
    exact spec_given
  exact ⟨r, done, given, metadata, metadata_found,
    marked_read _ (DynamicObject.metadata_read read sent)⟩

/-- A pod without metadata has no place for the annotations, so that the patch cannot be carried
out on it. -/
theorem unpatched (read : DynamicObject.ofJson? (.object top) = some object)
    (decodes : ofJson? object.toJson = some pod) (missing : Json.lookup top "metadata" = none)
    (grants : List Grant) : Json.patched? (.object top) (pod.injectionPatch grants) = none := by
  have blank : pod.metadata.annotations = none := by
    rw [annotations_eq read decodes, DynamicObject.metadata_missing read missing]
  have differs : Json.diff pod.metadata.toJson.normalize
      { pod.metadata with
        annotations := some (pod.metadata.markedAnnotations grants) }.toJson.normalize ≠ [] := by
    intro same
    -- otherwise the annotations would stand in an object that has no fields
    have none_given : Json.Given Json.stringMap? (Json.lookup [] "annotations")
        pod.metadata.annotations := by
      rw [blank]
      exact .missing
    obtain ⟨r, done, marked, -⟩ := Metadata.patched none_given grants
    rw [same] at done
    obtain rfl := Option.some.inj done
    obtain ⟨notes, there, -⟩ := marked.annotations
    cases there
  have found : ∀ p : Pod, p.toJson.get? "metadata" = some p.metadata.toJson := fun p => by
    rw [get?_toJson]
    cases p.spec <;> rfl
  refine Json.patched?_diff_missing (Json.distinct_normalize _) ?_ ?_ differs missing
  · rw [Json.lookup_normalize]
    exact congrArg (Option.map Json.normalize) (found pod)
  · rw [Json.lookup_normalize]
    rw [injectAll_eq]
    exact congrArg (Option.map Json.normalize) (found _)

/-- A pod on which the patch can be carried out has metadata. -/
lemma described_of_patched (read : DynamicObject.ofJson? (.object top) = some object)
    (decodes : ofJson? object.toJson = some pod) {grants : List Grant} {r : Json}
    (done : Json.patched? (.object top) (pod.injectionPatch grants) = some r) :
    ∃ parts, Json.lookup top "metadata" = some (.object parts) := by
  cases described : Json.lookup top "metadata" with
  | none =>
    rw [unpatched read decodes described] at done
    cases done
  | some metadata =>
    have metadata_read := DynamicObject.metadata_read read described
    cases metadata with
    | object parts => exact ⟨parts, rfl⟩
    | _ => cases metadata_read

end Pod

end CredentialOperator
