import CredentialOperator.Proofs.Admission.Wiring

/-!
# Pods with credentials are read again

The pod that is stored is the value that was sent after the patch.  It can be read again, and is
read as the pod that was read first with its credentials: to carry the patch out on what was sent
and to inject into what was read come to the same (`Pod.read_patched`).
-/

namespace CredentialOperator

open Json (appended AlikeBut EachItem itemsOf)

/-! ## Lists and fields -/

namespace Json

variable {α : Type} {read : Json → Option α}

/-- A list with more items at its end is read with what these are read as. -/
lemma Given.appended {x : Option Json} {o : Option (List α)}
    (given : Given (fun i => list? read i.normalize) x o) {items : List Json} {as : List α}
    (each : List.Forall₂ (fun i a => read i.normalize = some a) items as) :
    Given (fun i => list? read i.normalize) (appended x items) (extendList o as) := by
  have together : List.Forall₂ (fun i a => read i.normalize = some a) (itemsOf x ++ items)
      (o.getD [] ++ as) := by
    refine List.rel_append ?_ each
    cases given with
    | missing => exact .nil
    | null => exact .nil
    | value value =>
      obtain ⟨olds, rfl, each⟩ := items_of_normalized value
      exact each
  cases each with
  | nil => exact given
  | cons first rest => exact .value (list?_normalize together)

/-- A list whose items are changed is read with the changes. -/
lemma Given.each {x y : Option Json} {o : Option (List α)} {P : Json → Json → Prop}
    {change : α → α} (given : Given (fun i => list? read i.normalize) x o)
    (changed : EachItem P x y)
    (again : ∀ i r a, read i.normalize = some a → P i r → read r.normalize = some (change a)) :
    Given (fun i => list? read i.normalize) y (o.map (List.map change)) := by
  cases given with
  | missing =>
    obtain rfl : y = none := changed
    exact .missing
  | null =>
    obtain rfl : y = some .null := changed
    exact .null
  | @value j as value =>
    obtain ⟨items, rfl, each⟩ := items_of_normalized value
    obtain ⟨results, rfl, changes⟩ := changed
    refine .value (list?_normalize ?_)
    clear value
    induction each generalizing results with
    | nil =>
      cases changes
      exact .nil
    | cons first _ ih =>
      cases changes with
      | cons step steps => exact .cons (again _ _ _ first step) (ih _ steps)

lemma acceptsFields_congr {known : List (String × Shape)} {xs ys : Fields}
    (same : ∀ k ∈ known, occurrences ys k.1 = occurrences xs k.1) :
    Shape.acceptsFields known ys = Shape.acceptsFields known xs := by
  induction known with
  | nil => rfl
  | cons k rest ih =>
    obtain ⟨n, shape⟩ := k
    have first : occurrences ys n = occurrences xs n := same _ List.mem_cons_self
    rw [Shape.acceptsFields, Shape.acceptsFields, first,
      ih fun k h => same k (List.mem_cons_of_mem _ h)]

/-- Fields that are read apart do not matter for the others. -/
lemma others?_normalize {xs ys : Fields} {except : List String} {known : List (String × Shape)}
    (same : ∀ n ∉ except, lookup ys n = lookup xs n) (apart : ∀ k ∈ known, k.1 ∉ except) :
    others? (normalizeFields [] ys) except known =
      others? (normalizeFields [] xs) except known := by
  have forms : Shape.acceptsFields known (normalizeFields [] ys) =
      Shape.acceptsFields known (normalizeFields [] xs) := by
    refine acceptsFields_congr fun k listed => ?_
    rw [occurrences_normalize, occurrences_normalize, same _ (apart k listed)]
  have kept : ((normalizeFields [] ys).filter fun f => !except.contains f.1) =
      (normalizeFields [] xs).filter fun f => !except.contains f.1 := by
    refine ((Ascending.nil.normalizeFields ys).filter _).ext
      ((Ascending.nil.normalizeFields xs).filter _) fun n => ?_
    rw [lookup_filter fun n => !except.contains n, lookup_filter fun n => !except.contains n,
      lookup_normalize, lookup_normalize]
    split_ifs with other
    · rw [same n (by simpa using other)]
    · rfl
  rw [others?, others?, forms, kept]

lemma lenient_normalize_congr {xs ys : Fields} {name : String}
    (same : lookup ys name = lookup xs name) :
    lenient (normalizeFields [] ys) name read = lenient (normalizeFields [] xs) name read :=
  lenient_congr (by rw [occurrences_normalize, occurrences_normalize, same])

end Json

/-! ## Containers and volumes -/

/-- The variables for some grants are read as what containers are given. -/
lemma Grant.read_envEntries (grants : List Grant) :
    List.Forall₂ (fun i v => EnvVar.ofJson? i.normalize = some v)
      (grants.flatMap Grant.envEntries) (grants.flatMap Grant.envVars) := by
  induction grants with
  | nil => exact .nil
  | cons g rest ih =>
    refine List.rel_append ?_ ih
    rw [Grant.envEntries, Grant.envVars, List.forall₂_map_left_iff, List.forall₂_map_right_iff,
      List.forall₂_same]
    exact fun _ _ => rfl

/-- The mounts for some grants are read as what containers are given. -/
lemma Grant.read_mountEntries (grants : List Grant) :
    List.Forall₂ (fun i m => VolumeMount.ofJson? i.normalize = some m)
      (grants.filterMap Grant.mountEntry?) (grants.filterMap Grant.mount?) := by
  induction grants with
  | nil => exact .nil
  | cons g rest ih =>
    cases wanted : g.spec.injection.volume with
    | none =>
      rw [List.filterMap_cons_none (by rw [Grant.mountEntry?, wanted]; rfl),
        List.filterMap_cons_none (by rw [mount?, wanted]; rfl)]
      exact ih
    | some v =>
      rw [List.filterMap_cons_some (by rw [Grant.mountEntry?, wanted]; rfl),
        List.filterMap_cons_some (by rw [mount?, wanted]; rfl)]
      exact .cons rfl ih

/-- The volumes for some grants are read as what pods are given. -/
lemma Grant.read_volumeEntries (present : List String) (grants : List Grant) :
    List.Forall₂ (fun i v => Volume.ofJson? i.normalize = some v)
      (volumeEntries present grants) (newVolumes present grants) := by
  induction grants generalizing present with
  | nil => exact .nil
  | cons g rest ih =>
    unfold newVolumes volumeEntries
    split_ifs with added
    · exact .cons rfl (ih _)
    · exact ih present

variable {grants : List Grant}

/-- A container that was given credentials is read as the one that was read with them. -/
lemma Container.read_injected {j r : Json} {c : Container} (read : ofJson? j.normalize = some c)
    (injected : ContainerInjected grants j r) : ofJson? r.normalize = some (c.equip grants) := by
  obtain ⟨fields, fields', rfl, rfl, others⟩ := injected.others
  obtain ⟨name, env, mounts, rest⟩ := ofJson?_eq_some.1 read
  refine ofJson?_eq_some.2 ⟨?_, ?_, ?_, ?_⟩
  · refine Eq.trans ?_ name
    rw [Json.lenientOr, Json.lenient_normalize_congr (others "name" (by decide))]
    rfl
  · refine Json.lenient_of_given rfl ?_
    rw [show Json.lookup fields' "env" = _ from injected.env]
    exact (Json.given_of_normalized env).appended (Grant.read_envEntries grants)
  · refine Json.lenient_of_given rfl ?_
    rw [show Json.lookup fields' "volumeMounts" = _ from injected.mounts]
    exact (Json.given_of_normalized mounts).appended (Grant.read_mountEntries grants)
  · refine Eq.trans ?_ rest
    refine Json.others?_normalize (fun n other => others n fun listed => other ?_) (by decide)
    exact List.mem_cons_of_mem _ listed

/-- Containers that were given credentials are read as those that were read with them. -/
lemma Container.lenient_injected {fields fields' : Fields} {name : String}
    {o : Option (List Container)}
    (read : Json.lenient (Json.normalizeFields [] fields) name (Json.list? ofJson?) = some o)
    (injected : EachItem (ContainerInjected grants) (Json.lookup fields name)
      (Json.lookup fields' name)) :
    Json.lenient (Json.normalizeFields [] fields') name (Json.list? ofJson?) =
      some (o.map (List.map (·.equip grants))) := by
  refine Json.lenient_of_given rfl ?_
  exact (Json.given_of_normalized read).each injected fun _ _ _ => read_injected

/-- What a pod is made of is read with its credentials, if they were given to it. -/
lemma PodSpec.read_injected {j r : Json} {s : PodSpec} (read : ofJson? j.normalize = some s)
    (injected : SpecInjected grants j r) : ofJson? r.normalize = some (s.equip grants) := by
  obtain ⟨fields, fields', rfl, rfl, others⟩ := injected.others
  obtain ⟨containers, initContainers, volumes, rest⟩ := ofJson?_eq_some.1 read
  refine ofJson?_eq_some.2 ⟨?_, ?_, ?_, ?_⟩
  · obtain ⟨o, listed, same⟩ := Option.map_eq_some_iff.1 containers
    rw [Json.lenientOr, Container.lenient_injected listed injected.containers, equip, ← same]
    cases o <;> rfl
  · exact Container.lenient_injected initContainers injected.initContainers
  · have given := Json.given_of_normalized volumes
    refine Json.lenient_of_given rfl ?_
    show Json.Given _ _ (extendList s.volumes
      (newVolumes ((s.volumes.getD []).map (·.name)) grants))
    rw [show Json.lookup fields' "volumes" = _ from injected.volumes, volumeNames_given given]
    exact given.appended (Grant.read_volumeEntries _ grants)
  · exact (Json.others?_normalize others (by decide)).trans rest

/-! ## Objects -/

/-- Fields that do not name the kind do not matter when it is taken out. -/
lemma TypeName.take_filter (keep : String → Bool) (version : keep "apiVersion" = true)
    (kind : keep "kind" = true) (found : Option String × Option String) (fields : Fields) :
    take found (fields.filter fun f => keep f.1) =
      ((take found fields).1, (take found fields).2.filter fun f => keep f.1) := by
  induction fields generalizing found with
  | nil => obtain ⟨_ | _, _ | _⟩ := found <;> rfl
  | cons f rest ih =>
    obtain ⟨n, v⟩ := f
    by_cases isVersion : n = "apiVersion"
    · subst isVersion
      simp only [List.filter_cons, version, if_true, take]
      split
      · exact ih _
      · rfl
    · by_cases isKind : n = "kind"
      · subst isKind
        simp only [List.filter_cons, kind, if_true, take, if_neg isVersion]
        split
        · exact ih _
        · rfl
      · cases kept : keep n with
        | true => simp only [List.filter_cons, kept, if_true, take, if_neg isVersion,
            if_neg isKind, ih]
        | false => simp [kept, take, if_neg isVersion, if_neg isKind, ih]

namespace DynamicObject

variable {top top' : Fields} {object : DynamicObject}

/-- The metadata of an object that was read stand once. -/
lemma metadata_once (read : ofJson? (.object top) = some object) {j : Json}
    (sent : Json.lookup top "metadata" = some j) : Json.occurrences top "metadata" = [j] := by
  obtain ⟨m, first, -⟩ := Option.bind_eq_some_iff.1 read
  rw [Json.lookup_eq_getLast?] at sent
  unfold Json.defaulted Json.single? at first
  cases values : Json.occurrences top "metadata" with
  | nil => simp [values] at sent
  | cons v rest =>
    cases rest with
    | nil => simpa [values] using sent
    | cons w rest => simp [values] at first

/-- An object whose metadata and contents alone were changed is read as one of the same kind, with
all other fields as before. -/
lemma ofJson?_retouched (read : ofJson? (.object top) = some object)
    (touched : Json.Retouched ["metadata", "spec"] top top') {j j' : Json}
    (sent : Json.lookup top "metadata" = some j) (stands : Json.lookup top' "metadata" = some j')
    {m : Metadata} (metadata : Metadata.ofJson? j' = some m) :
    ∃ object', ofJson? (.object top') = some object' ∧ object'.type = object.type ∧
      object'.metadata = m ∧ ∀ n, n ≠ "spec" →
        Json.lookup object'.data n = Json.lookup object.data n := by
  have once := touched.occurrences_single (metadata_once read sent) stands
  have reads : Json.defaulted top' "metadata" {} Metadata.ofJson? = some m :=
    (Json.defaulted_of_single once).trans metadata
  obtain ⟨m₀, -, read⟩ := Option.bind_eq_some_iff.1 read
  obtain rfl := Option.some.inj read
  -- without the contents both objects have the same fields
  have same : ((top'.filter (·.1 ≠ "metadata")).filter fun f => f.1 ≠ "spec") =
      (top.filter (·.1 ≠ "metadata")).filter fun f => f.1 ≠ "spec" := by
    simpa [List.filter_filter, Bool.and_comm] using touched.others
  have taken := congrArg (TypeName.take (none, none)) same
  rw [TypeName.take_filter (fun n => n ≠ "spec") (by decide) (by decide),
    TypeName.take_filter (fun n => n ≠ "spec") (by decide) (by decide)] at taken
  obtain ⟨type, rest⟩ := Prod.mk.inj taken
  refine ⟨{ type := (TypeName.take (none, none) (top'.filter (·.1 ≠ "metadata"))).1
            metadata := m
            data := Json.normalizeFields []
              (TypeName.take (none, none) (top'.filter (·.1 ≠ "metadata"))).2 },
    by simp [ofJson?, Json.asObject?, reads], type, rfl, fun n other => ?_⟩
  have found := congrArg (Json.lookup · n) rest
  simp only [Json.lookup_filter fun n => n ≠ "spec", other, ne_eq, not_false_eq_true,
    decide_true, if_true] at found
  rw [Json.lookup_normalize, Json.lookup_normalize, found]

/-- Objects of one kind are written alike in the fields other than the metadata that are kept
alike. -/
lemma toJson_congr {object' : DynamicObject} (type : object'.type = object.type) :
    ∃ fields fields', object.toJson = .object fields ∧ object'.toJson = .object fields' ∧
      ∀ n, n ≠ "metadata" → Json.occurrences object'.data n = Json.occurrences object.data n →
        Json.occurrences fields' n = Json.occurrences fields n := by
  refine ⟨_, _, rfl, rfl, fun n other same => ?_⟩
  rw [type]
  simp only [Json.occurrences_append, Json.occurrences_entry, if_neg other.symm, same]

end DynamicObject

/-! ## Pods -/

/-- Metadata that are written with other annotations are read with these. -/
lemma Metadata.read_annotated {m m' : Metadata} (again : ofJson? m.toJson = some m')
    (notes : StringMap) : ofJson? { m with annotations := some notes }.toJson =
      some { m' with annotations := some notes } := by
  refine ofJson?_annotated again (fun n other => ?_) ?_
  · simp only [Json.occurrences_append, Json.occurrences_optionalEntry, if_neg other.symm]
  · refine (Json.lenient_of_single (j := Json.ofStringMap notes) ?_).trans ?_
    · simp [Json.occurrences_append, Json.occurrences_optionalEntry]
    · rw [Json.nullable?_of_ne (by simp [Json.ofStringMap]), Json.stringMap?_ofStringMap]
      rfl

namespace Pod

variable {object : DynamicObject} {pod : Pod}

/-- What a pod with credentials is made of is read with them. -/
lemma spec_given_again {x y : Option Json} {o : Option PodSpec}
    (given : Json.Given (fun j => PodSpec.ofJson? j.normalize) x o)
    (injected : (x = none ∨ x = some .null) ∧ y = x ∨
      ∃ s s', x = some s ∧ y = some s' ∧ SpecInjected grants s s') :
    Json.Given (fun j => PodSpec.ofJson? j.normalize) y (o.map (·.equip grants)) := by
  cases given with
  | missing =>
    rcases injected with ⟨-, rfl⟩ | ⟨_, _, there, -⟩
    · exact .missing
    · cases there
  | null =>
    rcases injected with ⟨-, rfl⟩ | ⟨_, _, there, -, spec⟩
    · exact .null
    · obtain ⟨_, _, object, -⟩ := spec.others
      rw [object] at there
      cases there
  | value value =>
    rcases injected with ⟨blank, -⟩ | ⟨s, s', there, rfl, spec⟩
    · rcases blank with blank | blank
      · cases blank
      · rw [Option.some.inj blank] at value
        cases value
    · obtain rfl := Option.some.inj there
      exact .value (PodSpec.read_injected value spec)

/-- The pod that is stored is read as the pod that was read first with the credentials. -/
theorem read_patched {raw result : Json} (read : DynamicObject.ofJson? raw = some object)
    (decodes : ofJson? object.toJson = some pod)
    (stored : raw.patched? (pod.injectionPatch grants) = some result) :
    ∃ object', DynamicObject.ofJson? result = some object' ∧
      ofJson? object'.toJson = some (pod.injectAll grants) := by
  obtain ⟨top, rfl⟩ : ∃ top, raw = .object top := by
    cases raw with
    | object top => exact ⟨top, rfl⟩
    | _ => cases read
  obtain ⟨parts, described⟩ := described_of_patched read decodes stored
  obtain ⟨r, patched, injected, metadata, there, marked⟩ :=
    Pod.patched read decodes described grants
  obtain rfl : r = result := Option.some.inj (patched.symm.trans stored)
  obtain ⟨top', rfl, touched⟩ :=
    Json.retouched_of_diff ⟨⟨_, rfl⟩, _, rfl⟩ (pod.get?_injectAll grants) patched
  obtain ⟨object', read', type, metadata', data⟩ :=
    DynamicObject.ofJson?_retouched read touched described there marked
  obtain ⟨fields, fields', written, written', alike⟩ := DynamicObject.toJson_congr type
  obtain ⟨gs, again, metadata_once, spec_once⟩ := DynamicObject.occurrences_again read'
  obtain rfl : fields' = gs := Json.object.inj (written'.symm.trans again)
  -- apart from the metadata and the contents the object is written as the first one was
  have kept : ∀ n, n ≠ "metadata" → n ≠ "spec" →
      Json.occurrences fields' n = Json.occurrences fields n := by
    intro n not_metadata not_spec
    refine alike n not_metadata ?_
    rw [Json.occurrences_of_distinct (DynamicObject.data_distinct read'),
      Json.occurrences_of_distinct (DynamicObject.data_distinct read), data n not_spec]
  obtain ⟨⟨status, formed⟩, ⟨version, kind⟩, -⟩ := ofJson?_eq_some.1 (written ▸ decodes)
  refine ⟨object', read', ?_⟩
  rw [written', injectAll_eq, ofJson?_eq_some]
  refine ⟨⟨status, ?_⟩, ⟨?_, ?_⟩, ?_, ?_⟩
  · rw [← formed]
    exact Json.lenient_congr (kept "status" (by decide) (by decide))
  · rw [← version, Json.expects, Json.expects, kept "apiVersion" (by decide) (by decide)]
  · rw [← kind, Json.expects, Json.expects, kept "kind" (by decide) (by decide)]
  · rw [Json.lenientOr, Json.lenient_of_single metadata_once, metadata',
      Json.nullable?_of_ne (by simp [Metadata.toJson]),
      Metadata.read_annotated (metadata_again read decodes)]
    rfl
  · have given : Json.Given (fun j => PodSpec.ofJson? j.normalize) (Json.lookup top' "spec")
        (pod.spec.map (·.equip grants)) := spec_given_again (spec_given read decodes) injected.spec
    rw [← Json.lenient_of_given rfl given]
    exact Json.lenient_congr (by rw [spec_once, Json.occurrences_normalize])

end Pod

end CredentialOperator
