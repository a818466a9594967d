import CredentialOperator.Proofs.Provider.RoundTrip
import CredentialOperator.Proofs.Provision.Attempt

/-!
# Sync requests read back

A sync request goes a long way before it is stored: it becomes an ExternalSecret, this a value, and
the value an object of no particular kind, whose metadata are those of any object and whose other
fields are kept in normal form.  Nothing is lost on it but the difference between a property or
version that is empty and one that is missing (`SyncRequest.Alike`).  The object can be read as an
ExternalSecret, in which the request is found again, so that two requests lead to the same object
only if they are alike (`requests_read_back`).
-/

namespace CredentialOperator

open Json

/-! ## ExternalSecrets as values -/

lemma ExternalSecretMetadata.steady_ofJson? : Steady ofJson? :=
  .record <| .bind (steady_string?.required "name") fun _ =>
    .bind (steady_string?.required "namespace") fun _ =>
    .bind (steady_stringMap?.defaulted "labels" ∅) fun _ => .some _

lemma SecretStoreRef.steady_ofJson? : Steady ofJson? :=
  .record <| .bind (steady_string?.required "name") fun _ =>
    .bind (steady_string?.required "kind") fun _ => .some _

lemma ExternalSecretTarget.steady_ofJson? : Steady ofJson? :=
  .record <| .bind (steady_string?.required "name") fun _ =>
    .bind (steady_string?.optional "creationPolicy") fun _ => .some _

lemma ExternalSecretData.steady_ofJson? : Steady ofJson? :=
  .record <| .bind (steady_string?.required "secretKey") fun _ =>
    .bind (RemoteReference.steady_ofJson?.required "remoteRef") fun _ => .some _

lemma ExternalSecretSpec.steady_ofJson? : Steady ofJson? :=
  .record <| .bind (steady_string?.optional "refreshInterval") fun _ =>
    .bind (SecretStoreRef.steady_ofJson?.required "secretStoreRef") fun _ =>
    .bind (ExternalSecretTarget.steady_ofJson?.required "target") fun _ =>
    .bind (ExternalSecretData.steady_ofJson?.list?.defaulted "data" []) fun _ => .some _

lemma ExternalSecret.steady_ofJson? : Steady ofJson? :=
  .record <| .bind (steady_string?.defaulted "apiVersion" _) fun _ =>
    .bind (steady_string?.defaulted "kind" _) fun _ =>
    .bind (ExternalSecretMetadata.steady_ofJson?.required "metadata") fun _ =>
    .bind (ExternalSecretSpec.steady_ofJson?.required "spec") fun _ => .some _

lemma RemoteReference.restored {r : RemoteReference} : Restored toJson ofJson? r := by
  refine .record ?_
  simp only [Option.bind_eq_bind, Option.bind_eq_some_iff, Option.some.injEq]
  refine ⟨r.key, restored_string.required ?_,
    r.property, Restored.optional (fun _ _ => restored_string) ?_,
    r.version, Restored.optional (fun _ _ => restored_string) ?_, rfl⟩
  all_goals simp [occurrences_append, occurrences_entry, occurrences_optionalEntry]

lemma SecretStoreRef.restored {r : SecretStoreRef} : Restored toJson ofJson? r := by
  refine .record ?_
  simp only [Option.bind_eq_bind, Option.bind_eq_some_iff, Option.some.injEq]
  refine ⟨r.name, restored_string.required ?_, r.kind, restored_string.required ?_, rfl⟩
  all_goals simp [occurrences_append, occurrences_entry]

lemma ExternalSecretTarget.restored {t : ExternalSecretTarget} : Restored toJson ofJson? t := by
  refine .record ?_
  simp only [Option.bind_eq_bind, Option.bind_eq_some_iff, Option.some.injEq]
  refine ⟨t.name, restored_string.required ?_,
    t.creationPolicy, Restored.optional (fun _ _ => restored_string) ?_, rfl⟩
  all_goals simp [occurrences_append, occurrences_entry, occurrences_optionalEntry]

lemma ExternalSecretData.restored {d : ExternalSecretData} : Restored toJson ofJson? d := by
  refine .record ?_
  simp only [Option.bind_eq_bind, Option.bind_eq_some_iff, Option.some.injEq]
  refine ⟨d.secretKey, restored_string.required ?_,
    d.remoteRef, RemoteReference.restored.required ?_, rfl⟩
  all_goals simp [occurrences_append, occurrences_entry]

lemma ExternalSecretSpec.restored {s : ExternalSecretSpec} : Restored toJson ofJson? s := by
  refine .record ?_
  simp only [Option.bind_eq_bind, Option.bind_eq_some_iff, Option.some.injEq]
  refine ⟨s.refreshInterval, Restored.optional (fun _ _ => restored_string) ?_,
    s.secretStoreRef, SecretStoreRef.restored.required ?_,
    s.target, ExternalSecretTarget.restored.required ?_,
    s.data, Restored.entries (fun _ _ => ExternalSecretData.restored) ?_, rfl⟩
  all_goals
    simp [occurrences_append, occurrences_entry, occurrences_optionalEntry, occurrences_entries]

/-! ## The object that is built -/

/-- A map that is left out when empty is read again. -/
lemma defaulted_stringMap {m : StringMap} {out : Fields} {name : String}
    (written : occurrences out name = if m.isEmpty then [] else [ofStringMap m]) :
    defaulted out name ∅ stringMap? = some m := by
  by_cases empty : m.isEmpty
  · obtain rfl := Std.ExtTreeMap.isEmpty_iff.1 empty
    rw [if_pos empty] at written
    simp only [defaulted, single?, written]
  · rw [if_neg empty] at written
    rw [defaulted_of_single written, stringMap?_ofStringMap]

/-- The metadata of an ExternalSecret survive being kept as those of any object. -/
lemma ExternalSecretMetadata.ofJson?_metadata (m : ExternalSecretMetadata) :
    ofJson? m.metadata.toJson = some m := by
  simp only [ofJson?, Metadata.toJson, asObject?, Option.bind_eq_bind, Option.bind_some,
    Option.bind_eq_some_iff, Option.some.injEq]
  refine ⟨m.name, restored_string.required ?_, m.ns, restored_string.required ?_,
    m.labels, defaulted_stringMap ?_, rfl⟩
  · simp [occurrences_append, occurrences_optionalEntry, metadata]
  · simp [occurrences_append, occurrences_optionalEntry, metadata]
  · by_cases empty : m.labels.isEmpty <;>
      simp [occurrences_append, occurrences_optionalEntry, metadata, empty]

/-- The object that is built for a request can be read as the ExternalSecret that makes it. -/
lemma SyncRequest.ofJson?_build {q : SyncRequest} {ns name : String} {labels : StringMap}
    {o : DynamicObject} (built : q.build ns name labels = .ok o) :
    ExternalSecret.ofJson? o.toJson = some (q.toExternalSecret ns name labels) := by
  obtain rfl := Except.ok.inj (built.symm.trans (q.build_eq ns name labels))
  -- the fields other than the metadata are kept in normal form, from which the same is read
  have spec := ExternalSecretSpec.steady_ofJson? _ _
    (ExternalSecretSpec.restored.again (a := (q.toExternalSecret ns name labels).spec))
  simp only [ExternalSecret.ofJson?, DynamicObject.toJson, asObject?, Option.bind_eq_bind,
    Option.bind_some, Option.bind_eq_some_iff, Option.some.injEq]
  refine ⟨externalSecretApiVersion, restored_string.defaulted ?_,
    externalSecretKindName, restored_string.defaulted ?_,
    ⟨name, ns, labels⟩, (required_of_single ?_).trans (ExternalSecretMetadata.ofJson?_metadata _),
    _, (required_of_single ?_).trans spec, rfl⟩
  all_goals
    simp [occurrences_append, occurrences_entry, normalizeFields, setOrdered, occurrences_cons]

/-! ## Requests that are alike -/

/-- The same text, where an empty one counts as none. -/
def SameText (a b : Option String) : Prop := ∀ t, t ≠ "" → (a = some t ↔ b = some t)

lemma sameText_iff {a b : Option String} :
    SameText a b ↔ a.filter (!·.isEmpty) = b.filter (!·.isEmpty) := by
  have kept : ∀ (o : Option String) t,
      o.filter (!·.isEmpty) = some t ↔ o = some t ∧ t ≠ "" := by
    simp [Option.filter_eq_some_iff]
  constructor
  · intro same
    ext t
    rw [kept, kept, and_congr_left_iff]
    exact same t
  · intro same t given
    have told := kept a t
    rw [same, kept b t] at told
    simpa [given] using told.symm

namespace SyncData

/-- Values to be copied from the same place, where an empty property or version counts as none. -/
structure Alike (d d' : SyncData) : Prop where
  secretKey : d.secretKey = d'.secretKey
  remoteKey : d.remoteKey = d'.remoteKey
  property : SameText d.property d'.property
  version : SameText d.version d'.version

/-- A value to be copied, without an empty property or version. -/
def tidied (d : SyncData) : SyncData :=
  { d with
    property := d.property.filter (!·.isEmpty)
    version := d.version.filter (!·.isEmpty) }

variable {d d' : SyncData}

lemma alike_iff : d.Alike d' ↔ d.tidied = d'.tidied := by
  simp only [tidied, mk.injEq, ← sameText_iff]
  exact ⟨fun h => ⟨h.secretKey, h.remoteKey, h.property, h.version⟩,
    fun ⟨secretKey, remoteKey, property, version⟩ => ⟨secretKey, remoteKey, property, version⟩⟩

lemma tidied_tidied : d.tidied.tidied = d.tidied := by
  simp [tidied, Option.filter_filter]

end SyncData

namespace SyncRequest

/-- Requests that ask for the same, value by value in their order. -/
structure Alike (q q' : SyncRequest) : Prop where
  refreshInterval : q.refreshInterval = q'.refreshInterval
  store : q.store = q'.store
  target : q.target = q'.target
  creationPolicy : q.creationPolicy = q'.creationPolicy
  data : List.Forall₂ SyncData.Alike q.data q'.data

/-- No property or version in a request is empty. -/
def Tidy (q : SyncRequest) : Prop := ∀ d ∈ q.data, d.property ≠ some "" ∧ d.version ≠ some ""

/-- The request without empty properties and versions. -/
def tidied (q : SyncRequest) : SyncRequest := { q with data := q.data.map SyncData.tidied }

variable {q q' : SyncRequest} {ns name ns' name' : String} {labels labels' : StringMap}

lemma alike_iff : q.Alike q' ↔ q.tidied = q'.tidied := by
  have data : q.data.map SyncData.tidied = q'.data.map SyncData.tidied ↔
      List.Forall₂ SyncData.Alike q.data q'.data := by
    have told : SyncData.Alike = fun d d' => d.tidied = d'.tidied := by
      ext d d'
      exact SyncData.alike_iff
    rw [told, ← List.forall₂_eq_eq_eq, List.forall₂_map_left_iff, List.forall₂_map_right_iff]
  simp only [tidied, mk.injEq, data]
  exact ⟨fun h => ⟨h.refreshInterval, h.store, h.target, h.creationPolicy, h.data⟩,
    fun ⟨interval, store, target, policy, data⟩ => ⟨interval, store, target, policy, data⟩⟩

lemma alike_tidied : q.Alike q.tidied := by
  simp [alike_iff, tidied, SyncData.tidied_tidied]

lemma tidy_tidied : q.tidied.Tidy := by
  simp [Tidy, tidied, SyncData.tidied, Option.filter_eq_some_iff]

/-! ## The request behind an object -/

/-- The request that an ExternalSecret is to make, if there is one. -/
def ofSpec? (s : ExternalSecretSpec) : Option SyncRequest := do
  some {
    refreshInterval := ← s.refreshInterval
    store := ⟨s.secretStoreRef.name, ← StoreKind.ofText? s.secretStoreRef.kind⟩
    target := s.target.name
    creationPolicy := ← CreationPolicy.ofText? (← s.target.creationPolicy)
    data := s.data.map fun d =>
      ⟨d.secretKey, d.remoteRef.key, d.remoteRef.property, d.remoteRef.version⟩ }

lemma ofSpec?_toExternalSecret :
    ofSpec? (q.toExternalSecret ns name labels).spec = some q.tidied := by
  simp [ofSpec?, toExternalSecret, tidied, entry, SyncData.tidied]

lemma toExternalSecret_tidied :
    q.tidied.toExternalSecret ns name labels = q.toExternalSecret ns name labels := by
  simp [toExternalSecret, tidied, entry, SyncData.tidied, Option.filter_filter]

/-- An object tells the request that it was built for, up to texts that are empty, and where it
belongs. -/
lemma build_eq_build_iff :
    q.build ns name labels = q'.build ns' name' labels' ↔
      ns = ns' ∧ name = name' ∧ labels = labels' ∧ q.Alike q' := by
  rw [alike_iff]
  constructor
  · intro same
    have built := q.build_eq ns name labels
    have read := ofJson?_build built
    rw [ofJson?_build (same ▸ built)] at read
    have wanted := Option.some.inj read
    have metadata := congrArg ExternalSecret.metadata wanted
    have spec := congrArg (fun e => ofSpec? e.spec) wanted
    rw [ofSpec?_toExternalSecret, ofSpec?_toExternalSecret] at spec
    obtain ⟨rfl, rfl, rfl⟩ := ExternalSecretMetadata.mk.inj metadata
    exact ⟨rfl, rfl, rfl, (Option.some.inj spec).symm⟩
  · rintro ⟨rfl, rfl, rfl, same⟩
    rw [build, ← toExternalSecret_tidied, same, toExternalSecret_tidied, build]

end SyncRequest

/-- The object for a request can always be built, and the request read back from it.  Whether as it
stands or with its fields put into order, the object is an ExternalSecret with the name, the
namespace and the labels that were asked for, and what this asks for is again a request that is
alike, whose empty properties and versions have gone.  So objects are the same exactly if they
belong to the same place, have the same labels and were built for requests that are alike. -/
theorem requests_read_back (q : SyncRequest) (ns name : String) (labels : StringMap) :
    (∃ o e r, q.build ns name labels = .ok o ∧
      ExternalSecret.ofJson? o.toJson = some e ∧
      ExternalSecret.ofJson? o.toJson.normalize = some e ∧
      e.apiVersion = "external-secrets.io/v1beta1" ∧ e.kind = "ExternalSecret" ∧
      e.metadata = ⟨name, ns, labels⟩ ∧
      SyncRequest.ofSpec? e.spec = some r ∧ q.Alike r ∧ r.Tidy) ∧
    ∀ q' ns' name' labels', q.build ns name labels = q'.build ns' name' labels' ↔
      ns = ns' ∧ name = name' ∧ labels = labels' ∧ q.Alike q' := by
  refine ⟨?_, fun q' ns' name' labels' => SyncRequest.build_eq_build_iff⟩
  have built := q.build_eq ns name labels
  have read := SyncRequest.ofJson?_build built
  exact ⟨_, q.toExternalSecret ns name labels, q.tidied, built, read,
    ExternalSecret.steady_ofJson? _ _ read, rfl, rfl, rfl, SyncRequest.ofSpec?_toExternalSecret,
    SyncRequest.alike_tidied, SyncRequest.tidy_tidied⟩

/-- An empty property is not found again, an empty key is. -/
example : SyncRequest.ofSpec? (SyncRequest.toExternalSecret
      ⟨"1h", ⟨"vault", .clusterSecretStore⟩, "chat-key", .merge, [⟨"", "kv/openai", some "", none⟩]⟩
      "team" "chat-key" ∅).spec =
    some ⟨"1h", ⟨"vault", .clusterSecretStore⟩, "chat-key", .merge,
      [⟨"", "kv/openai", none, none⟩]⟩ := by
  rfl

end CredentialOperator
