import CredentialOperator.Admission.PodInjection
import CredentialOperator.Proofs.Grant.StoredMetadata
import CredentialOperator.Proofs.Json.Steady

/-!
# Pods as they are sent and as they are read

The pod of a request is read twice: as an object of any kind, whose fields are brought into
normal form, and from this as a pod.  Here the two readings are followed back to the value that
was sent: which of its fields each part of the pod comes from, and that lists keep their length.
-/

namespace CredentialOperator

namespace Json

variable {α : Type} {fields : Fields} {name : String} {read : Json → Option α}

/-- What a field that may be missing or `null` is read as. -/
inductive Given (read : Json → Option α) : Option Json → Option α → Prop where
  /-- The field is missing. -/
  | missing : Given read none none
  /-- The field is `null`. -/
  | null : Given read (some .null) none
  /-- The field has a value. -/
  | value {j : Json} {a : α} (value : read j = some a) : Given read (some j) (some a)

lemma given_of_lenient {o : Option α} (h : lenient fields name read = some o) :
    Given read (lookup fields name) o := by
  rcases last_of_lenient h with ⟨missing, rfl⟩ | ⟨j, found, value⟩
  · rw [missing]
    exact .missing
  · rw [found]
    cases o with
    | some a => exact .value (exists_of_nullable? value)
    | none =>
      cases j with
      | null => exact .null
      | _ => simp [nullable?] at value

lemma given_of_normalized {o : Option α}
    (h : lenient (normalizeFields [] fields) name read = some o) :
    Given (fun j => read j.normalize) (lookup fields name) o := by
  have given := given_of_lenient h
  rw [lookup_normalize] at given
  generalize lookup fields name = x at given ⊢
  cases x with
  | none =>
    rw [Option.map_none] at given
    cases given
    exact .missing
  | some j =>
    rw [Option.map_some] at given
    generalize known : j.normalize = n at given
    cases given with
    | value value => exact .value (known ▸ value)
    | null =>
      cases j with
      | null => exact .null
      | _ => simp [normalize] at known

/-- A field of an object in normal form is read as what was given. -/
lemma lenient_of_given {o : Option α} (blank : read .null = none)
    (given : Given (fun j => read j.normalize) (lookup fields name) o) :
    lenient (normalizeFields [] fields) name read = some o := by
  have once := occurrences_normalize fields name
  generalize lookup fields name = x at given once
  cases given with
  | missing =>
    have nothing : occurrences (normalizeFields [] fields) name = [] := once
    simp [lenient, nothing]
  | null => exact lenient_of_single once
  | @value j a value =>
    have present : j.normalize ≠ .null := by
      intro null
      rw [null, blank] at value
      cases value
    rw [lenient_of_single once, nullable?_of_ne present, value]
    rfl

/-- The items of a list; none for any other value. -/
def itemsOf : Option Json → List Json
  | some (.array items) => items
  | _ => []

/-- A list is read item by item. -/
lemma items_of_normalized {j : Json} {xs : List α} (h : list? read j.normalize = some xs) :
    ∃ items, j = .array items ∧ List.Forall₂ (fun i x => read i.normalize = some x) items xs := by
  cases j with
  | array items =>
    refine ⟨items, rfl, ?_⟩
    rw [normalize, normalizeItems_eq_map] at h
    exact List.forall₂_map_left_iff.1 (forall₂_of_mapM h)
  | _ => cases h

end Json

namespace Metadata

/-- Metadata in which the annotations alone are others are read as before, with these. -/
lemma ofJson?_annotated {parts parts' : Fields} {m : Metadata}
    (read : ofJson? (.object parts) = some m)
    (others : ∀ n, n ≠ "annotations" → Json.occurrences parts' n = Json.occurrences parts n)
    {notes : Option StringMap}
    (annotations : Json.lenient parts' "annotations" Json.stringMap? = some notes) :
    ofJson? (.object parts') = some { m with annotations := notes } := by
  have same : ∀ {α : Type} (read : Json → Option α), ∀ n ≠ "annotations",
      Json.lenient parts' n read = Json.lenient parts n read :=
    fun _ n other => Json.lenient_congr (others n other)
  rw [ofJson?_eq_some] at read ⊢
  obtain ⟨h₁, h₂, h₃, h₄, h₅, h₆, h₇, -, h₉, h₁₀, h₁₁, h₁₂⟩ := read
  simp [same, annotations, h₁, h₂, h₃, h₄, h₅, h₆, h₇, h₉, h₁₀, h₁₁, h₁₂]

/-- The annotations are written and read again. -/
lemma annotations_again {m m' : Metadata} (h : ofJson? m.toJson = some m') :
    m'.annotations = m.annotations := by
  obtain ⟨fields, written, given⟩ : ∃ fields, m.toJson = .object fields ∧
      Json.occurrences fields "annotations" = (m.annotations.map Json.ofStringMap).toList :=
    ⟨_, rfl, by simp [Json.occurrences_append, Json.occurrences_optionalEntry]⟩
  rw [written] at h
  have read := (ofJson?_eq_some.1 h).2.2.2.2.2.2.2.1
  cases notes : m.annotations with
  | none =>
    have blank : Json.occurrences fields "annotations" = [] := by rw [given, notes]; rfl
    simpa [Json.lenient, blank] using read.symm
  | some a =>
    have alone : Json.occurrences fields "annotations" = [Json.ofStringMap a] := by
      rw [given, notes]; rfl
    rw [Json.lenient_of_single alone, Json.nullable?_of_ne (by simp [Json.ofStringMap]),
      Json.stringMap?_ofStringMap] at read
    exact (Option.some.inj read).symm

end Metadata

namespace TypeName

/-- Taking the kind out of the fields leaves the other names as they are. -/
lemma lookup_take {name : String} (version : name ≠ "apiVersion") (kind : name ≠ "kind")
    (found : Option String × Option String) (fields : Fields) :
    Json.lookup (take found fields).2 name = Json.lookup fields name := by
  induction fields generalizing found with
  | nil => obtain ⟨_ | _, _ | _⟩ := found <;> rfl
  | cons f rest ih =>
    obtain ⟨n, v⟩ := f
    unfold take
    split_ifs with isVersion isKind
    · subst isVersion
      split <;> simp [Json.lookup, ih, version.symm]
    · subst isKind
      split <;> simp [Json.lookup, ih, kind.symm]
    · simp only [Json.lookup, ih]

end TypeName

namespace DynamicObject

variable {top : Fields} {object : DynamicObject}

/-- The fields of an object other than its kind are kept in normal form. -/
lemma lookup_data (read : ofJson? (.object top) = some object) {name : String}
    (version : name ≠ "apiVersion") (kind : name ≠ "kind") :
    Json.lookup object.data name =
      if name = "metadata" then none else (Json.lookup top name).map Json.normalize := by
  obtain ⟨m, -, read⟩ := Option.bind_eq_some_iff.1 read
  obtain rfl := Option.some.inj read
  have others : Json.lookup (top.filter fun f => f.1 ≠ "metadata") name =
      if name = "metadata" then none else Json.lookup top name := by
    rw [Json.lookup_filter (fun n => n ≠ "metadata")]
    by_cases h : name = "metadata" <;> simp [h]
  rw [Json.lookup_normalize, TypeName.lookup_take version kind, others]
  split_ifs <;> rfl

/-- Of the fields that are kept each stands once. -/
lemma data_distinct (read : ofJson? (.object top) = some object) :
    (object.data.map (·.1)).Nodup := by
  obtain ⟨m, -, read⟩ := Option.bind_eq_some_iff.1 read
  obtain rfl := Option.some.inj read
  exact Json.distinct_normalize _

/-- Next to the fields that name the kind, an object has its metadata and the fields kept. -/
lemma occurrences_toJson (o : DynamicObject) :
    ∃ fields, o.toJson = .object fields ∧ ∀ name, name ≠ "apiVersion" → name ≠ "kind" →
      Json.occurrences fields name =
        (if "metadata" = name then [o.metadata.toJson] else []) ++
          Json.occurrences o.data name := by
  refine ⟨_, rfl, fun name version kind => ?_⟩
  cases o.type <;>
    simp [Json.occurrences_append, Json.occurrences_entry, version.symm, kind.symm]

/-- What was sent is what an object writes: its metadata, and every other field in normal form. -/
lemma occurrences_again (read : ofJson? (.object top) = some object) :
    ∃ fields, object.toJson = .object fields ∧
      Json.occurrences fields "metadata" = [object.metadata.toJson] ∧
      Json.occurrences fields "spec" = ((Json.lookup top "spec").map Json.normalize).toList := by
  have distinct := data_distinct read
  obtain ⟨fields, written, given⟩ := object.occurrences_toJson
  refine ⟨fields, written, ?_, ?_⟩
  · rw [given _ (by decide) (by decide), Json.occurrences_of_distinct distinct,
      lookup_data read (by decide) (by decide)]
    rfl
  · rw [given _ (by decide) (by decide), Json.occurrences_of_distinct distinct,
      lookup_data read (by decide) (by decide)]
    rfl

/-- The metadata of an object are read from the field of this name. -/
lemma metadata_read (read : ofJson? (.object top) = some object) {j : Json}
    (sent : Json.lookup top "metadata" = some j) : Metadata.ofJson? j = some object.metadata := by
  obtain ⟨m, first, read⟩ := Option.bind_eq_some_iff.1 read
  obtain rfl := Option.some.inj read
  rw [Json.lookup_eq_getLast?] at sent
  unfold Json.defaulted Json.single? at first
  cases values : Json.occurrences top "metadata" with
  | nil => simp [values] at sent
  | cons v rest =>
    cases rest with
    | nil =>
      obtain rfl : v = j := by simpa [values] using sent
      simpa [values] using first
    | cons w rest => simp [values] at first

/-- An object without metadata is read as one with empty metadata. -/
lemma metadata_missing (read : ofJson? (.object top) = some object)
    (missing : Json.lookup top "metadata" = none) : object.metadata = {} := by
  obtain ⟨m, first, read⟩ := Option.bind_eq_some_iff.1 read
  obtain rfl := Option.some.inj read
  rw [Json.lookup_eq_getLast?, List.getLast?_eq_none_iff] at missing
  simpa [Json.defaulted, Json.single?, missing] using first.symm

end DynamicObject

namespace Pod

variable {top parts fields : Fields} {object : DynamicObject} {pod : Pod}

/-- A pod is read by its kind, its metadata and what it is made of, if its status has its form. -/
lemma ofJson?_eq_some : ofJson? (.object fields) = some pod ↔
    (∃ status, Json.lenient fields "status" (Json.shaped? PodForm.status) = some status) ∧
      (Json.expects fields "apiVersion" "v1" = true ∧ Json.expects fields "kind" "Pod" = true) ∧
      Json.lenientOr fields "metadata" {} Metadata.ofJson? = some pod.metadata ∧
      Json.lenient fields "spec" PodSpec.ofJson? = some pod.spec := by
  constructor
  · intro decodes
    obtain ⟨status, formed, decodes⟩ := Option.bind_eq_some_iff.1 decodes
    split_ifs at decodes with kind
    obtain ⟨m, metadata, decodes⟩ := Option.bind_eq_some_iff.1 decodes
    obtain ⟨s, spec, decodes⟩ := Option.bind_eq_some_iff.1 decodes
    obtain rfl := Option.some.inj decodes
    exact ⟨⟨status, formed⟩, Bool.and_eq_true_iff.1 kind, metadata, spec⟩
  · rintro ⟨⟨status, formed⟩, ⟨version, kind⟩, metadata, spec⟩
    simp [ofJson?, Json.asObject?, formed, version, kind, metadata, spec]

/-- The metadata of a pod are those of the object that it is read from, written and read again. -/
lemma metadata_again (read : DynamicObject.ofJson? (.object top) = some object)
    (decodes : ofJson? object.toJson = some pod) :
    Metadata.ofJson? object.metadata.toJson = some pod.metadata := by
  obtain ⟨fields, written, once, -⟩ := DynamicObject.occurrences_again read
  rw [written] at decodes
  have metadata := (ofJson?_eq_some.1 decodes).2.2.1
  rw [Json.lenientOr, Json.lenient_of_single once,
    Json.nullable?_of_ne (by simp [Metadata.toJson])] at metadata
  cases again : Metadata.ofJson? object.metadata.toJson with
  | none => simp [again] at metadata
  | some m => simpa [again] using metadata

/-- The annotations of a pod are those of the object that it is read from. -/
lemma annotations_eq (read : DynamicObject.ofJson? (.object top) = some object)
    (decodes : ofJson? object.toJson = some pod) :
    pod.metadata.annotations = object.metadata.annotations :=
  Metadata.annotations_again (metadata_again read decodes)

/-- The annotations of a pod are those that were sent. -/
lemma annotations_given (read : DynamicObject.ofJson? (.object top) = some object)
    (decodes : ofJson? object.toJson = some pod)
    (sent : Json.lookup top "metadata" = some (.object parts)) :
    Json.Given Json.stringMap? (Json.lookup parts "annotations") pod.metadata.annotations := by
  rw [annotations_eq read decodes]
  have first := DynamicObject.metadata_read read sent
  exact Json.given_of_lenient (Metadata.ofJson?_eq_some.1 first).2.2.2.2.2.2.2.1

/-- What a pod is made of is what was sent, in normal form. -/
lemma spec_given (read : DynamicObject.ofJson? (.object top) = some object)
    (decodes : ofJson? object.toJson = some pod) :
    Json.Given (fun j => PodSpec.ofJson? j.normalize) (Json.lookup top "spec") pod.spec := by
  obtain ⟨fields, written, -, spec⟩ := DynamicObject.occurrences_again read
  rw [written] at decodes
  have second := (ofJson?_eq_some.1 decodes).2.2.2
  apply Json.given_of_normalized
  rw [← second]
  apply Json.lenient_congr
  rw [spec, Json.occurrences_normalize]

end Pod

namespace Json

/-- Fields that are kept have none of the names that are read apart. -/
lemma lookup_others? {fields others : Fields} {except : List String}
    {known : List (String × Shape)} (h : others? fields except known = some others)
    {name : String} (apart : name ∈ except) : lookup others name = none := by
  unfold others? at h
  split_ifs at h
  obtain rfl := Option.some.inj h
  rw [lookup_filter (fun n => !except.contains n)]
  simp [apart]

end Json

namespace PodSpec

lemma ofJson?_eq_some {fields : Fields} {s : PodSpec} : ofJson? (.object fields) = some s ↔
    Json.lenientOr fields "containers" [] (Json.list? Container.ofJson?) = some s.containers ∧
      Json.lenient fields "initContainers" (Json.list? Container.ofJson?) =
        some s.initContainers ∧
      Json.lenient fields "volumes" (Json.list? Volume.ofJson?) = some s.volumes ∧
      Json.others? fields ["containers", "initContainers", "volumes"] PodForm.spec =
        some s.others := by
  constructor
  · intro read
    obtain ⟨cs, containers, read⟩ := Option.bind_eq_some_iff.1 read
    obtain ⟨is, initContainers, read⟩ := Option.bind_eq_some_iff.1 read
    obtain ⟨vs, volumes, read⟩ := Option.bind_eq_some_iff.1 read
    obtain ⟨os, others, read⟩ := Option.bind_eq_some_iff.1 read
    obtain rfl := Option.some.inj read
    exact ⟨containers, initContainers, volumes, others⟩
  · rintro ⟨containers, initContainers, volumes, others⟩
    simp [ofJson?, Json.asObject?, containers, initContainers, volumes, others]

/-- What a pod is made of, field by field. -/
lemma given {j : Json} {s : PodSpec} (read : ofJson? j.normalize = some s) :
    ∃ fields, j = .object fields ∧
      (∃ cs, Json.Given (fun i => Json.list? Container.ofJson? i.normalize)
        (Json.lookup fields "containers") cs ∧ s.containers = cs.getD []) ∧
      Json.Given (fun i => Json.list? Container.ofJson? i.normalize)
        (Json.lookup fields "initContainers") s.initContainers ∧
      Json.Given (fun i => Json.list? Volume.ofJson? i.normalize)
        (Json.lookup fields "volumes") s.volumes ∧
      ∀ name ∈ ["containers", "initContainers", "volumes"], Json.lookup s.others name = none := by
  cases j with
  | object fields =>
    obtain ⟨containers, initContainers, volumes, others⟩ := ofJson?_eq_some.1 read
    obtain ⟨cs, listed, same⟩ := Option.map_eq_some_iff.1 containers
    exact ⟨fields, rfl, ⟨cs, Json.given_of_normalized listed, same.symm⟩,
      Json.given_of_normalized initContainers, Json.given_of_normalized volumes,
      fun _ apart => Json.lookup_others? others apart⟩
  | _ => cases read

end PodSpec

namespace Container

lemma ofJson?_eq_some {fields : Fields} {c : Container} : ofJson? (.object fields) = some c ↔
    Json.lenientOr fields "name" "" Json.string? = some c.name ∧
      Json.lenient fields "env" (Json.list? EnvVar.ofJson?) = some c.env ∧
      Json.lenient fields "volumeMounts" (Json.list? VolumeMount.ofJson?) = some c.volumeMounts ∧
      Json.others? fields ["name", "env", "volumeMounts"] PodForm.container = some c.others := by
  constructor
  · intro read
    obtain ⟨n, name, read⟩ := Option.bind_eq_some_iff.1 read
    obtain ⟨vs, env, read⟩ := Option.bind_eq_some_iff.1 read
    obtain ⟨ms, mounts, read⟩ := Option.bind_eq_some_iff.1 read
    obtain ⟨os, others, read⟩ := Option.bind_eq_some_iff.1 read
    obtain rfl := Option.some.inj read
    exact ⟨name, env, mounts, others⟩
  · rintro ⟨name, env, mounts, others⟩
    simp [ofJson?, Json.asObject?, name, env, mounts, others]

/-- A container, field by field. -/
lemma given {j : Json} {c : Container} (read : ofJson? j.normalize = some c) :
    ∃ fields, j = .object fields ∧
      Json.Given (fun i => Json.list? EnvVar.ofJson? i.normalize) (Json.lookup fields "env") c.env ∧
      Json.Given (fun i => Json.list? VolumeMount.ofJson? i.normalize)
        (Json.lookup fields "volumeMounts") c.volumeMounts ∧
      ∀ name ∈ ["name", "env", "volumeMounts"], Json.lookup c.others name = none := by
  cases j with
  | object fields =>
    obtain ⟨-, env, mounts, others⟩ := ofJson?_eq_some.1 read
    exact ⟨fields, rfl, Json.given_of_normalized env, Json.given_of_normalized mounts,
      fun _ apart => Json.lookup_others? others apart⟩
  | _ => cases read

end Container

/-- The text in a field of a value; empty if there is none. -/
def Json.textAt (name : String) (j : Json) : String := ((j.get? name).bind asString?).getD ""

lemma Json.textAt_of_lenientOr {fields : Fields} {name s : String}
    (read : lenientOr (normalizeFields [] fields) name "" string? = some s) :
    s = textAt name (.object fields) := by
  obtain ⟨o, text, rfl⟩ := Option.map_eq_some_iff.1 read
  have given := given_of_normalized text
  generalize found : lookup fields name = x at given
  cases given with
  | missing => simp [textAt, get?, found]
  | null => simp [textAt, get?, found, asString?]
  | @value j t value =>
    cases j with
    | string t' => simp_all [textAt, get?, asString?, string?, normalize]
    | _ => simp [string?, normalize, asString?] at value

/-- The name of a volume is the one that was sent. -/
lemma Volume.name_given {j : Json} {v : Volume} (read : ofJson? j.normalize = some v) :
    v.name = j.textAt "name" := by
  cases j with
  | object fields =>
    obtain ⟨n, name, read⟩ := Option.bind_eq_some_iff.1 read
    obtain ⟨os, others, read⟩ := Option.bind_eq_some_iff.1 read
    obtain rfl := Option.some.inj read
    exact Json.textAt_of_lenientOr name
  | _ => cases read

end CredentialOperator
