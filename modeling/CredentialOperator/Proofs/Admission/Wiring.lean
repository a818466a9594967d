import CredentialOperator.Admission.GrantRules
import CredentialOperator.Proofs.Admission.Injection
import Mathlib.Data.List.Nodup

/-!
# Injected credentials in the eyes of the cluster

The cluster takes a pod if its volumes have different names, which are labels, if no container
mounts two volumes under one path, and if only volumes of the pod are mounted
(`Json.AcceptablePod`).  The injector adds to a pod without asking for any of this: it mounts the
directories of all grants under their paths, names their volumes after them, and takes a volume
that has this name already for its own.

Two of the four conditions are kept all the same.  The others are, and every mount shows the
artifact of its grant, if and only if the grants and the pod keep their paths, names and volumes
apart (`acceptable_after_injection`).
-/

namespace CredentialOperator

open Json (appended EachItem itemsOf textAt)

/-! ## Names of volumes and objects -/

/-- A letter in lower case, or a digit. -/
def isNameChar (c : Char) : Bool := c.isLower || c.isDigit

/-- Letters, digits and dashes, with no dash at either end. -/
def isLabelText (cs : List Char) : Bool :=
  cs.head?.any isNameChar && cs.getLast?.any isNameChar &&
    cs.all fun c => isNameChar c || c == '-'

/-- A text that may be the name of a volume: a DNS-1123 label. -/
def IsLabel (s : String) : Prop := isLabelText s.toList = true ∧ s.length ≤ 63

/-- A text that may be the name of an object: labels with dots between them. -/
def IsObjectName (s : String) : Prop :=
  s.length ≤ 253 ∧ ∀ part ∈ s.toList.splitOn '.', isLabelText part = true

instance (s : String) : Decidable (IsLabel s) := inferInstanceAs (Decidable (_ ∧ _))

instance (s : String) : Decidable (IsObjectName s) := inferInstanceAs (Decidable (_ ∧ _))

lemma isLabelText_prefixed {cs : List Char} (label : isLabelText cs = true) :
    isLabelText (injectedVolumeStart.toList ++ cs) = true := by
  simp only [isLabelText, Bool.and_eq_true] at label ⊢
  obtain ⟨⟨-, last⟩, all⟩ := label
  have nonempty : cs ≠ [] := by
    rintro rfl
    cases last
  have front : injectedVolumeStart.toList.all (fun c => isNameChar c || c == '-') = true := by
    decide
  refine ⟨⟨rfl, ?_⟩, ?_⟩
  · rw [List.getLast?_append_of_ne_nil _ nonempty]
    exact last
  · rw [List.all_append, front, all]
    rfl

/-- The volume of a grant has a name that a volume may have if the name of the grant is short and
has no dots. -/
lemma Grant.isLabel_volumeName {g : Grant} (valid : IsObjectName g.name) :
    IsLabel g.volumeName ↔ '.' ∉ g.name.toList ∧ g.name.length ≤ 55 := by
  have chars : g.volumeName.toList = injectedVolumeStart.toList ++ g.name.toList :=
    String.toList_append
  have length : g.volumeName.length = 8 + g.name.length :=
    String.length_append injectedVolumeStart g.name
  have label : isLabelText g.volumeName.toList = true ↔ '.' ∉ g.name.toList := by
    rw [chars]
    constructor
    · intro label dot
      simp only [isLabelText, Bool.and_eq_true, List.all_eq_true] at label
      exact absurd (label.2 '.' (List.mem_append_right _ dot)) (by decide)
    · intro no_dot
      have alone : g.name.toList.splitOn '.' = [g.name.toList] := by
        apply List.splitOn_eq_singleton_of_beq_eq_false
        intro c given
        exact beq_false_of_ne fun same => no_dot (same ▸ given)
      exact isLabelText_prefixed (valid.2 _ (by rw [alone]; exact List.mem_singleton_self _))
  rw [IsLabel, label, length]
  exact and_congr_right fun _ => by omega

/-! ## Pods that the cluster takes -/

namespace Json

/-- The volumes of a pod. -/
def podVolumes (pod : Json) : List Json := itemsOf ((pod.get? "spec").bind (·.get? "volumes"))

/-- The containers of a pod, with those that run first. -/
def podContainers (pod : Json) : List Json :=
  itemsOf ((pod.get? "spec").bind (·.get? "containers")) ++
    itemsOf ((pod.get? "spec").bind (·.get? "initContainers"))

/-- The mounts of a container. -/
def mounts (container : Json) : List Json := itemsOf (container.get? "volumeMounts")

/-- The Secret that a volume shows. -/
def secretOf? (volume : Json) : Option String := do
  (← (← volume.get? "secret").get? "secretName").asString?

/-- The names of the volumes of a pod. -/
def volumeNames (pod : Json) : List String := pod.podVolumes.map (textAt "name")

/-- What the cluster asks of the volumes and mounts of a pod. -/
structure AcceptablePod (pod : Json) : Prop where
  /-- No two volumes have one name. -/
  names_distinct : pod.volumeNames.Nodup
  /-- The names are labels. -/
  names_valid : ∀ n ∈ pod.volumeNames, IsLabel n
  /-- No two mounts of a container have one path. -/
  paths_distinct : ∀ c ∈ pod.podContainers, (c.mounts.map (textAt "mountPath")).Nodup
  /-- Only volumes of the pod are mounted. -/
  declared : ∀ c ∈ pod.podContainers, ∀ m ∈ c.mounts, m.textAt "name" ∈ pod.volumeNames

end Json

/-- Every container has the mounts for some grants, and each mount shows the artifact of its
grant. -/
def Wired (grants : List Grant) (pod : Json) : Prop :=
  ∀ c ∈ pod.podContainers, ∀ g ∈ grants, ∀ m, g.mountEntry? = some m →
    m ∈ c.mounts ∧ ∃ v ∈ pod.podVolumes, v.textAt "name" = m.textAt "name" ∧
      v.secretOf? = some g.spec.secretName

/-- What a pod and some grants have to keep apart so that the pod can be given their credentials. -/
structure Compatible (grants : List Grant) (pod : Json) : Prop where
  /-- A grant whose volume is not there yet has a short name without dots. -/
  names : (pod.get? "spec").any (· ≠ .null) → ∀ g ∈ grants, g.spec.injection.volume.isSome →
    g.volumeName ∈ pod.volumeNames ∨ '.' ∉ g.name.toList ∧ g.name.length ≤ 55
  /-- The directories of the grants and of each container have different paths. -/
  paths : ∀ c ∈ pod.podContainers, (c.mounts.map (textAt "mountPath") ++
    grants.filterMap fun g => g.spec.injection.volume.map (·.mountPath)).Nodup
  /-- A volume that is there already shows the artifact of its grant. -/
  secrets : pod.podContainers ≠ [] → ∀ g ∈ grants, g.spec.injection.volume.isSome →
    ∀ v ∈ pod.podVolumes, v.textAt "name" = g.volumeName → v.secretOf? = some g.spec.secretName

/-! ## The volumes that are added -/

section

variable {present : List String} {grants : List Grant} {g : Grant}

lemma textAt_volumeEntry (g : Grant) : g.volumeEntry.textAt "name" = g.volumeName := rfl

lemma exists_of_mountEntry? {m : Json} (h : g.mountEntry? = some m) :
    ∃ v, g.spec.injection.volume = some v ∧ m.textAt "name" = g.volumeName ∧
      m.textAt "mountPath" = v.mountPath := by
  obtain ⟨v, given, rfl⟩ := Option.map_eq_some_iff.1 h
  exact ⟨v, given, rfl, rfl⟩

lemma mem_volumeEntries {v : Json} (h : v ∈ volumeEntries present grants) :
    ∃ g ∈ grants, g.spec.injection.volume.isSome ∧ g.volumeName ∉ present ∧ v = g.volumeEntry := by
  induction grants generalizing present with
  | nil => cases h
  | cons g rest ih =>
    unfold volumeEntries at h
    split_ifs at h with added
    · rcases List.mem_cons.1 h with rfl | h
      · exact ⟨g, List.mem_cons_self, added.1, added.2, rfl⟩
      · obtain ⟨g', given, wanted, fresh, rfl⟩ := ih h
        exact ⟨g', List.mem_cons_of_mem _ given, wanted,
          fun there => fresh (List.mem_append_left _ there), rfl⟩
    · obtain ⟨g', given, rest⟩ := ih h
      exact ⟨g', List.mem_cons_of_mem _ given, rest⟩

/-- The names stay distinct. -/
lemma nodup_volumeEntries (distinct : present.Nodup) (grants : List Grant) :
    (present ++ (volumeEntries present grants).map (textAt "name")).Nodup := by
  induction grants generalizing present with
  | nil => simpa [volumeEntries] using distinct
  | cons g rest ih =>
    unfold volumeEntries
    split_ifs with added
    · have longer : (present ++ [g.volumeName]).Nodup := by
        refine List.nodup_append.2 ⟨distinct, List.nodup_singleton _, fun n there n' last => ?_⟩
        rw [List.mem_singleton.1 last]
        exact ne_of_mem_of_not_mem there added.2
      simpa [textAt_volumeEntry] using ih longer
    · exact ih distinct

/-- Each grant with a directory has its volume, or another one of its name was there. -/
lemma volumeEntry_mem (distinct : (grants.map Grant.name).Nodup) (given : g ∈ grants)
    (wanted : g.spec.injection.volume.isSome) (present : List String) :
    g.volumeName ∈ present ∨ g.volumeEntry ∈ volumeEntries present grants := by
  induction grants generalizing present with
  | nil => cases given
  | cons g' rest ih =>
    obtain ⟨fresh, distinct⟩ := List.nodup_cons.1 distinct
    unfold volumeEntries
    rcases List.mem_cons.1 given with rfl | given
    · by_cases there : g.volumeName ∈ present
      · exact .inl there
      · rw [if_pos ⟨wanted, there⟩]
        exact .inr List.mem_cons_self
    · split_ifs with added
      · rcases ih distinct given (present ++ [g'.volumeName]) with there | entry
        · rcases List.mem_append.1 there with there | same
          · exact .inl there
          · -- names of volumes differ as the names of their grants do
            have same : g.volumeName = g'.volumeName := List.mem_singleton.1 same
            have same_name : g.name = g'.name := by
              simpa [Grant.volumeName] using same
            exact absurd (List.mem_map.2 ⟨g, given, same_name⟩) fresh
        · exact .inr (List.mem_cons_of_mem _ entry)
      · exact ih distinct given present

end

/-! ## The pod with the credentials -/

lemma itemsOf_appended (x : Option Json) (more : List Json) :
    itemsOf (appended x more) = itemsOf x ++ more := by
  unfold appended
  split_ifs with none_more
  · rw [none_more, List.append_nil]
  · rfl

lemma forall₂_of_eachItem {P : Json → Json → Prop} {x y : Option Json} (h : EachItem P x y) :
    List.Forall₂ P (itemsOf x) (itemsOf y) := by
  cases x with
  | none =>
    obtain rfl : y = none := h
    exact .nil
  | some j =>
    cases j with
    | array items =>
      obtain ⟨results, rfl, each⟩ := h
      exact each
    | _ =>
      obtain rfl := h
      exact .nil

namespace PodInjected

variable {grants : List Grant} {raw result : Json}

/-- Either a pod is made of nothing, or its volumes and containers get what they are given. -/
lemma outfit (injected : PodInjected grants raw result) :
    ((raw.get? "spec").any (· ≠ .null) = false ∧ result.podVolumes = raw.podVolumes ∧
        raw.podContainers = [] ∧ result.podContainers = []) ∨
      ((raw.get? "spec").any (· ≠ .null) = true ∧
        result.podVolumes = raw.podVolumes ++ volumeEntries raw.volumeNames grants ∧
        List.Forall₂ (fun c c' => c'.mounts = c.mounts ++ grants.filterMap Grant.mountEntry?)
          raw.podContainers result.podContainers) := by
  rcases injected.spec with ⟨blank, same⟩ | ⟨s, s', there, there', spec⟩
  · have nothing : ∀ name, (raw.get? "spec").bind (·.get? name) = none := by
      intro name
      rcases blank with h | h <;> rw [h] <;> rfl
    have none_raw : raw.podContainers = [] := by simp [Json.podContainers, nothing, itemsOf]
    refine .inl ⟨?_, by rw [Json.podVolumes, same]; rfl, none_raw, ?_⟩
    · rcases blank with h | h <;> simp [h]
    · rw [Json.podContainers, same]
      exact none_raw
  · have present : (raw.get? "spec").any (· ≠ .null) = true := by
      obtain ⟨fs, gs, rfl, -⟩ := spec.others
      simp [there]
    refine .inr ⟨present, ?_, ?_⟩
    · simp only [Json.podVolumes, Json.volumeNames, there, there', Option.bind_some, spec.volumes,
        itemsOf_appended]
    · have mounted : ∀ c c' : Json, ContainerInjected grants c c' →
          c'.mounts = c.mounts ++ grants.filterMap Grant.mountEntry? := by
        intro c c' given
        rw [Json.mounts, given.mounts, itemsOf_appended]
        rfl
      simp only [Json.podContainers, there, there', Option.bind_some]
      exact (List.rel_append (forall₂_of_eachItem spec.containers)
        (forall₂_of_eachItem spec.initContainers)).imp mounted

lemma volumeNames_eq {vs : List Json} (volumes : result.podVolumes = raw.podVolumes ++ vs) :
    result.volumeNames = raw.volumeNames ++ vs.map (textAt "name") := by
  rw [Json.volumeNames, volumes, List.map_append]
  rfl

/-- The names of the volumes stay distinct. -/
lemma names_distinct (injected : PodInjected grants raw result) (before : raw.volumeNames.Nodup) :
    result.volumeNames.Nodup := by
  rcases injected.outfit with ⟨-, volumes, -⟩ | ⟨-, volumes, -⟩
  · rwa [Json.volumeNames, volumes]
  · rw [volumeNames_eq volumes]
    exact nodup_volumeEntries before grants

/-- A volume that was there is there still. -/
lemma podVolumes_subset (injected : PodInjected grants raw result) :
    raw.podVolumes ⊆ result.podVolumes := by
  rcases injected.outfit with ⟨-, volumes, -⟩ | ⟨-, volumes, -⟩
  · rw [volumes]
    exact List.Subset.refl _
  · rw [volumes]
    exact List.subset_append_left _ _

/-- A property of the mounts of containers, told of the pod as it was sent. -/
lemma forall_mounts {P : List Json → Prop} (injected : PodInjected grants raw result) :
    (∀ c ∈ result.podContainers, P c.mounts) ↔
      ∀ c ∈ raw.podContainers, P (c.mounts ++ grants.filterMap Grant.mountEntry?) := by
  rcases injected.outfit with ⟨-, -, none_raw, none_result⟩ | ⟨-, -, each⟩
  · simp [none_raw, none_result]
  · generalize raw.podContainers = cs, result.podContainers = cs' at each ⊢
    induction each with
    | nil => simp
    | cons first _ ih => simp [first, ih]

/-- There are containers if there were any. -/
lemma podContainers_eq_nil_iff (injected : PodInjected grants raw result) :
    result.podContainers = [] ↔ raw.podContainers = [] := by
  rcases injected.outfit with ⟨-, -, none_raw, none_result⟩ | ⟨-, -, each⟩
  · simp [none_raw, none_result]
  · rw [← List.length_eq_zero_iff, ← each.length_eq, List.length_eq_zero_iff]

/-- Only volumes of the pod are mounted still. -/
lemma declared (injected : PodInjected grants raw result)
    (distinct : (grants.map Grant.name).Nodup)
    (before : ∀ c ∈ raw.podContainers, ∀ m ∈ c.mounts, m.textAt "name" ∈ raw.volumeNames) :
    ∀ c ∈ result.podContainers, ∀ m ∈ c.mounts, m.textAt "name" ∈ result.volumeNames := by
  rw [injected.forall_mounts (P := fun ms => ∀ m ∈ ms, m.textAt "name" ∈ result.volumeNames)]
  intro c listed m mounted
  rcases List.mem_append.1 mounted with own | given
  · exact List.map_subset _ injected.podVolumes_subset (before c listed m own)
  · obtain ⟨g, chosen, entry⟩ := List.mem_filterMap.1 given
    obtain ⟨v, wanted, name, -⟩ := exists_of_mountEntry? entry
    rcases injected.outfit with ⟨-, -, none_raw, -⟩ | ⟨-, volumes, -⟩
    · rw [none_raw] at listed
      cases listed
    · rw [volumeNames_eq volumes, name, List.mem_append]
      refine (volumeEntry_mem distinct chosen (by rw [wanted]; rfl) _).imp_right fun there => ?_
      exact List.mem_map.2 ⟨_, there, rfl⟩

/-- The paths of the mounts for some grants. -/
lemma mountPaths (grants : List Grant) :
    (grants.filterMap Grant.mountEntry?).map (textAt "mountPath") =
      grants.filterMap fun g => g.spec.injection.volume.map (·.mountPath) := by
  rw [List.map_filterMap]
  refine List.filterMap_congr fun g _ => ?_
  rw [Grant.mountEntry?, Option.map_map]
  rfl

/-- If the pod with the credentials is taken and wired, nothing had to be kept apart that was
not. -/
lemma compatible (injected : PodInjected grants raw result)
    (distinct : (grants.map Grant.name).Nodup) (valid : ∀ g ∈ grants, IsObjectName g.name)
    (after : result.AcceptablePod) (wired : Wired grants result) : Compatible grants raw := by
  have paths := (injected.forall_mounts (P := fun ms => (ms.map (textAt "mountPath")).Nodup)).1
    after.paths_distinct
  refine ⟨fun made g chosen wanted => ?_, fun c listed => ?_, fun some_container => ?_⟩
  · rcases injected.outfit with ⟨nothing, -⟩ | ⟨-, volumes, -⟩
    · rw [nothing] at made
      cases made
    · refine (volumeEntry_mem distinct chosen wanted _).imp_right fun there => ?_
      have named : g.volumeName ∈ result.volumeNames := by
        rw [volumeNames_eq volumes]
        exact List.mem_append_right _ (List.mem_map.2 ⟨_, there, rfl⟩)
      exact (Grant.isLabel_volumeName (valid g chosen)).1 (after.names_valid _ named)
  · rw [← mountPaths, ← List.map_append]
    exact paths c listed
  · intro g chosen wanted v there name
    obtain ⟨m, entry⟩ : ∃ m, g.mountEntry? = some m :=
      Option.isSome_iff_exists.1 (by rw [Grant.mountEntry?, Option.isSome_map, wanted])
    obtain ⟨-, -, mount_name, -⟩ := exists_of_mountEntry? entry
    -- there is a container that has the mount of the grant
    obtain ⟨c, listed⟩ : ∃ c, c ∈ result.podContainers :=
      List.exists_mem_of_ne_nil _ (mt injected.podContainers_eq_nil_iff.1 some_container)
    obtain ⟨-, v', there', name', secret⟩ := wired c listed g chosen m entry
    have same : v = v' := List.inj_on_of_nodup_map after.names_distinct
      (injected.podVolumes_subset there) there' (by rw [name, name', mount_name])
    rw [same, secret]

/-- What is kept apart can be put together. -/
lemma acceptable (injected : PodInjected grants raw result) (before : raw.AcceptablePod)
    (distinct : (grants.map Grant.name).Nodup) (valid : ∀ g ∈ grants, IsObjectName g.name)
    (compatible : Compatible grants raw) : result.AcceptablePod where
  names_distinct := injected.names_distinct before.names_distinct
  names_valid := by
    rcases injected.outfit with ⟨-, volumes, -⟩ | ⟨made, volumes, -⟩
    · rw [Json.volumeNames, volumes]
      exact before.names_valid
    · rw [volumeNames_eq volumes]
      intro n listed
      rcases List.mem_append.1 listed with own | new
      · exact before.names_valid n own
      · obtain ⟨v, added, rfl⟩ := List.mem_map.1 new
        obtain ⟨g, chosen, wanted, fresh, rfl⟩ := mem_volumeEntries added
        refine (Grant.isLabel_volumeName (valid g chosen)).2 ?_
        exact (compatible.names made g chosen wanted).resolve_left fresh
  paths_distinct := by
    rw [injected.forall_mounts (P := fun ms => (ms.map (textAt "mountPath")).Nodup)]
    intro c listed
    rw [List.map_append, mountPaths]
    exact compatible.paths c listed
  declared := injected.declared distinct before.declared

lemma wired (injected : PodInjected grants raw result)
    (distinct : (grants.map Grant.name).Nodup) (compatible : Compatible grants raw) :
    Wired grants result := by
  intro c listed g chosen m entry
  obtain ⟨v, wanted, name, -⟩ := exists_of_mountEntry? entry
  have wanted : g.spec.injection.volume.isSome := by rw [wanted]; rfl
  have mounted : ∀ c ∈ result.podContainers, m ∈ c.mounts := by
    rw [injected.forall_mounts (P := fun ms => m ∈ ms)]
    intro c _
    exact List.mem_append_right _ (List.mem_filterMap.2 ⟨g, chosen, entry⟩)
  refine ⟨mounted c listed, ?_⟩
  have some_container : raw.podContainers ≠ [] :=
    mt injected.podContainers_eq_nil_iff.2 (List.ne_nil_of_mem listed)
  rcases injected.outfit with ⟨-, -, none_raw, -⟩ | ⟨-, volumes, -⟩
  · exact absurd none_raw some_container
  · rcases volumeEntry_mem distinct chosen wanted raw.volumeNames with there | there
    · obtain ⟨v, there, volume_name⟩ := List.mem_map.1 there
      exact ⟨v, injected.podVolumes_subset there, by rw [volume_name, name],
        compatible.secrets some_container g chosen wanted v there volume_name⟩
    · refine ⟨g.volumeEntry, ?_, name.symm, rfl⟩
      rw [volumes]
      exact List.mem_append_right _ there

end PodInjected

/-! ## The pod that is stored -/

/-- What an object that was sent is stored as: as it is, or as the patch in the answer makes it. -/
def ReviewResponse.carriedOut? (r : ReviewResponse) (raw : Json) : Option Json :=
  match r.patch with
  | none => some raw
  | some patch => raw.patchedBy? (patch.map Json.Operation.toJson)

lemma ReviewResponse.carriedOut?_of_patch {r : ReviewResponse} {patch : Json.Patch}
    (given : r.patch = some patch) (raw : Json) : r.carriedOut? raw = raw.patched? patch := by
  rw [carriedOut?, given]
  exact Json.patchedBy?_toJson raw patch

/-- A pod on which the patch can be carried out has been given the credentials. -/
lemma Pod.injected_of_patched {raw result : Json} {object : DynamicObject} {pod : Pod}
    (read : DynamicObject.ofJson? raw = some object) (decodes : ofJson? object.toJson = some pod)
    {grants : List Grant} (stored : raw.patched? (pod.injectionPatch grants) = some result) :
    PodInjected grants raw result := by
  cases raw with
  | object top =>
    obtain ⟨parts, described⟩ := Pod.described_of_patched read decodes stored
    obtain ⟨r, patched, injected, -⟩ := Pod.patched read decodes described grants
    obtain rfl : r = result := Option.some.inj (patched.symm.trans stored)
    exact injected
  | _ => cases read

/-- A pod that passes as it is has been given the credentials of no grant. -/
lemma Compatible.of_none {raw : Json} (acceptable : raw.AcceptablePod) : Compatible [] raw where
  names := by
    intro _ g chosen
    cases chosen
  paths := by
    intro c listed
    rw [List.filterMap_nil, List.append_nil]
    exact acceptable.paths_distinct c listed
  secrets := by
    intro _ g chosen
    cases chosen

/-- What can be said of a pod that is stored with credentials: the names of its volumes are
distinct and only these are mounted.  It is taken by the cluster and shows the right artifacts if
and only if the grants can be put together with the pod and each other. -/
theorem acceptable_after_injection {request raw : Json} {q : ReviewRequest} {pod : Pod}
    (asked : ReviewRequest.ofJson? request = some q) (sent : request.get? "object" = some raw)
    (decodes : (q.object.bind fun o => Pod.ofJson? o.toJson) = some pod)
    (acceptable : raw.AcceptablePod) {grants : List Grant}
    (distinct : (grants.map Grant.name).Nodup) (valid : ∀ g ∈ grants, IsObjectName g.name)
    {ds : List Deed} {r : ReviewResponse} (run : q.mutatePod.Runs ds r)
    (listed : Deed.request (.listGrants ((q.ns.or pod.metadata.ns).getD "")) (.ok grants) ∈ ds) :
    let chosen := grants.filter fun g => g.MeantFor pod.labels
    ((∃ metadata, raw.get? "metadata" = some (.object metadata)) →
        ∃ result, r.carriedOut? raw = some result) ∧
      ∀ result, r.carriedOut? raw = some result →
        result.volumeNames.Nodup ∧
        (∀ c ∈ result.podContainers, ∀ m ∈ c.mounts, m.textAt "name" ∈ result.volumeNames) ∧
        (result.AcceptablePod ∧ Wired chosen result ↔ Compatible chosen raw) := by
  intro chosen
  obtain ⟨object, there, decodes⟩ := Option.bind_eq_some_iff.1 decodes
  have answer : r = if chosen = [] then q.allow
      else { q.allow with patch := some (pod.injectionPatch chosen) } :=
    ReviewRequest.eq_podAnswer there decodes run listed
  by_cases none_chosen : chosen = []
  · rw [if_pos none_chosen] at answer
    subst answer
    refine ⟨fun _ => ⟨raw, rfl⟩, fun result stored => ?_⟩
    obtain rfl : raw = result := Option.some.inj stored
    have wired : Wired [] raw := fun _ _ g chosen => by cases chosen
    rw [none_chosen]
    exact ⟨acceptable.names_distinct, acceptable.declared,
      fun _ => Compatible.of_none acceptable, fun _ => ⟨acceptable, wired⟩⟩
  · rw [if_neg none_chosen] at answer
    have carried : r.carriedOut? raw = raw.patched? (pod.injectionPatch chosen) :=
      ReviewResponse.carriedOut?_of_patch (by rw [answer]) raw
    have chosen_distinct : (chosen.map Grant.name).Nodup :=
      distinct.sublist (List.filter_sublist.map Grant.name)
    have chosen_valid : ∀ g ∈ chosen, IsObjectName g.name :=
      fun g h => valid g (List.mem_of_mem_filter h)
    rw [carried]
    refine ⟨?_, fun result stored => ?_⟩
    · rintro ⟨metadata, described⟩
      obtain ⟨result, patched, -⟩ :=
        Pod.patched_of_request asked sent described there decodes chosen
      exact ⟨result, patched⟩
    · have injected :=
        Pod.injected_of_patched (ReviewRequest.object_read asked sent there) decodes stored
      refine ⟨injected.names_distinct acceptable.names_distinct,
        injected.declared chosen_distinct acceptable.declared, ?_, fun compatible => ?_⟩
      · rintro ⟨after, wired⟩
        exact injected.compatible chosen_distinct chosen_valid after wired
      · exact ⟨injected.acceptable acceptable chosen_distinct chosen_valid compatible,
          injected.wired chosen_distinct compatible⟩

namespace Sample

/-- Another grant for every pod of its namespace, with the same directory. -/
def alsoEverywhere : Grant where
  metadata := { name := some "chatbot-anthropic", ns := some "team-a" }
  spec := { provider := "anthropic-vault", secretName := "chatbot-anthropic-key",
            workloadSelector := some {},
            injection := { volume := some { mountPath := "/var/run/secrets/keygate" } } }

lemma sentPod_acceptable : sentPod.AcceptablePod where
  names_distinct := by decide
  names_valid := by decide
  paths_distinct := by decide
  declared := by decide

end Sample

/-- The pod of the sample is taken with the credential of one grant. -/
theorem sample_acceptable_after_injection :
    ∃ ds r result, Sample.podQuestion.mutatePod.Runs ds r ∧
      r.carriedOut? Sample.sentPod = some result ∧ result.AcceptablePod ∧
      Wired [Sample.everywhere] result := by
  have chosen : ([Sample.everywhere].filter fun g => g.MeantFor Sample.readPod.labels) =
      [Sample.everywhere] := by decide +kernel
  have compatible : Compatible [Sample.everywhere] Sample.sentPod :=
    ⟨by decide, by decide, by decide⟩
  obtain ⟨object, there, decodes⟩ := Option.bind_eq_some_iff.1 Sample.pod_decodes
  obtain ⟨ds, run, listed⟩ := ReviewRequest.exists_run there decodes [Sample.everywhere]
  obtain ⟨stored, each⟩ := acceptable_after_injection Sample.pod_asked rfl Sample.pod_decodes
    Sample.sentPod_acceptable (by decide) (by decide) run listed
  obtain ⟨result, stored⟩ := stored ⟨_, rfl⟩
  rw [chosen] at each
  obtain ⟨acceptable, wired⟩ := (each result stored).2.2.2 compatible
  exact ⟨ds, _, result, run, stored, acceptable, wired⟩

/-- With two grants that have the same directory the pod of the sample is not taken any more. -/
theorem pod_refused_after_injection :
    ∃ ds r result, ReviewRequest.ofJson? Sample.podRequest = some Sample.podQuestion ∧
      Sample.sentPod.AcceptablePod ∧
      ([Sample.alsoEverywhere, Sample.everywhere].map Grant.name).Nodup ∧
      (∀ g ∈ [Sample.alsoEverywhere, Sample.everywhere], IsObjectName g.name ∧
        g.spec.validate g.key.text = .ok []) ∧
      Sample.podQuestion.mutatePod.Runs ds r ∧
      Deed.request (.listGrants "team-a") (.ok [Sample.alsoEverywhere, Sample.everywhere]) ∈ ds ∧
      r.carriedOut? Sample.sentPod = some result ∧ ¬result.AcceptablePod := by
  let grants := [Sample.alsoEverywhere, Sample.everywhere]
  have valid : ∀ g ∈ grants, IsObjectName g.name ∧ g.spec.validate g.key.text = .ok [] := by
    intro g listed
    rcases List.mem_pair.1 listed with rfl | rfl
    · exact ⟨by decide, rfl⟩
    · exact ⟨by decide, rfl⟩
  obtain ⟨object, there, decodes⟩ := Option.bind_eq_some_iff.1 Sample.pod_decodes
  obtain ⟨ds, run, listed⟩ := ReviewRequest.exists_run there decodes grants
  obtain ⟨result, patched, injected⟩ :=
    Pod.patched_of_request Sample.pod_asked rfl rfl there decodes grants
  have answer : (Sample.podQuestion.podAnswer Sample.readPod grants).patch =
      some (Sample.readPod.injectionPatch grants) := by
    have chosen : (grants.filter fun g => g.MeantFor Sample.readPod.labels) = grants := by
      decide +kernel
    rw [ReviewRequest.podAnswer, chosen]
    rfl
  have stored : (Sample.podQuestion.podAnswer Sample.readPod grants).carriedOut? Sample.sentPod =
      some result := by rw [ReviewResponse.carriedOut?_of_patch answer, patched]
  refine ⟨ds, _, result, Sample.pod_asked, Sample.sentPod_acceptable, by decide, valid, run,
    listed, stored, ?_⟩
  intro acceptable
  -- the only container has both mounts now
  have paths := (injected.forall_mounts (P := fun ms => (ms.map (textAt "mountPath")).Nodup)).1
    acceptable.paths_distinct
  exact absurd paths (by decide)

end CredentialOperator
