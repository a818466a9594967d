import CredentialOperator.Proofs.Admission.Rereading

/-!
# Pods that are asked about again

The injector looks neither for its own marks nor at what is about to be done to a pod.  A pod that
has been given credentials is given them again whenever it is asked about: each container gets the
same variables and mounts once more, after those that it has already.  Only the volumes, which are
looked up by their names, and the annotations stay as they are (`injected_again`).
-/

namespace CredentialOperator

open Json (appended EachItem itemsOf textAt)

variable {grants : List Grant}

/-! ## What is given twice -/

/-- Marks that are set again stay as they are. -/
lemma Metadata.markedAnnotations_again (m : Metadata) (grants : List Grant) :
    { m with annotations := some (m.markedAnnotations grants) }.markedAnnotations grants =
      m.markedAnnotations grants := by
  apply Std.ExtTreeMap.ext_getElem?
  intro n
  simp only [getElem?_markedAnnotations, Option.getD_some]
  split_ifs <;> rfl

/-- Every grant with a directory has a volume of its name in the end. -/
lemma volumeName_mem {g : Grant} (given : g ∈ grants) (wanted : g.spec.injection.volume.isSome)
    (present : List String) :
    g.volumeName ∈ present ++ (newVolumes present grants).map (·.name) := by
  induction grants generalizing present with
  | nil => cases given
  | cons g' rest ih =>
    unfold newVolumes
    rcases List.mem_cons.1 given with rfl | given
    · by_cases there : g.volumeName ∈ present
      · exact List.mem_append_left _ there
      · rw [if_pos ⟨wanted, there⟩]
        exact List.mem_append_right _ List.mem_cons_self
    · split_ifs with added
      · simpa [Grant.volume] using ih given (present ++ [g'.volumeName])
      · exact ih given present

lemma newVolumes_eq_nil {present : List String}
    (there : ∀ g ∈ grants, g.spec.injection.volume.isSome → g.volumeName ∈ present) :
    newVolumes present grants = [] := by
  induction grants with
  | nil => rfl
  | cons g rest ih =>
    rw [newVolumes, if_neg fun added => added.2 (there g List.mem_cons_self added.1)]
    exact ih fun g' h => there g' (List.mem_cons_of_mem _ h)

/-- Volumes that were added once are not added again. -/
lemma newVolumes_again (present : List String) (grants : List Grant) :
    newVolumes (present ++ (newVolumes present grants).map (·.name)) grants = [] :=
  newVolumes_eq_nil fun _ given wanted => volumeName_mem given wanted present

lemma textAt_volumeEntries (present : List String) (grants : List Grant) :
    (volumeEntries present grants).map (textAt "name") =
      (newVolumes present grants).map (·.name) := by
  induction grants generalizing present with
  | nil => rfl
  | cons g rest ih =>
    unfold newVolumes volumeEntries
    split_ifs with added
    · rw [List.map_cons, List.map_cons, ih]
      rfl
    · exact ih present

lemma volumeEntries_again (present : List String) (grants : List Grant) :
    volumeEntries (present ++ (volumeEntries present grants).map (textAt "name")) grants = [] := by
  rw [textAt_volumeEntries, ← normalize_newVolumes, newVolumes_again]
  rfl

/-- The grants have neither variables nor a directory. -/
def Bare (grants : List Grant) : Prop :=
  ∀ g ∈ grants, g.spec.injection.env = [] ∧ g.spec.injection.volume = none

lemma bare_iff_entries : Bare grants ↔
    grants.flatMap Grant.envEntries = [] ∧ grants.filterMap Grant.mountEntry? = [] := by
  simp [Bare, Grant.envEntries, Grant.mountEntry?, forall_and]

lemma Container.equip_bare (bare : Bare grants) (c : Container) : c.equip grants = c := by
  have env : grants.flatMap Grant.envVars = [] :=
    List.flatMap_eq_nil_iff.2 fun g h => by simp [Grant.envVars, bare g h]
  have mounts : grants.filterMap Grant.mount? = [] :=
    List.filterMap_eq_nil_iff.2 fun g h => by simp [Grant.mount?, bare g h]
  rw [equip, env, mounts]
  rfl

lemma getD_extendList {α : Type} (o : Option (List α)) (more : List α) :
    (extendList o more).getD [] = o.getD [] ++ more := by
  cases more <;> simp [extendList]

/-- What a pod is made of does not change any more if there is no container to be given anything. -/
lemma PodSpec.equip_again {s : PodSpec}
    (nothing : s.containers = [] ∧ s.initContainers.getD [] = [] ∨ Bare grants) :
    (s.equip grants).equip grants = s.equip grants := by
  have volumes : newVolumes (((s.equip grants).volumes.getD []).map (·.name)) grants = [] := by
    rw [equip, getD_extendList, List.map_append, newVolumes_again]
  have same : ∀ cs : List Container, cs = [] ∨ Bare grants → cs.map (·.equip grants) = cs := by
    rintro cs (rfl | bare)
    · rfl
    · simp [Container.equip_bare bare]
  have containers : s.containers.map (·.equip grants) = s.containers :=
    same _ (nothing.imp_left And.left)
  have inits : s.initContainers.map (List.map (·.equip grants)) = s.initContainers := by
    cases there : s.initContainers with
    | none => rfl
    | some cs =>
      exact congrArg some (same cs (nothing.imp_left fun h => by simpa [there] using h.2))
  unfold equip at volumes ⊢
  simp only [containers, inits, volumes, extendList_nil]

/-- Nor does the pod. -/
lemma Pod.injectAll_again {p : Pod} (nothing : ∀ s, p.spec = some s →
    s.containers = [] ∧ s.initContainers.getD [] = [] ∨ Bare grants) :
    (p.injectAll grants).injectAll grants = p.injectAll grants := by
  rw [injectAll_eq, injectAll_eq]
  have spec : (p.spec.map (·.equip grants)).map (·.equip grants) = p.spec.map (·.equip grants) := by
    cases there : p.spec with
    | none => rfl
    | some s => exact congrArg some (PodSpec.equip_again (nothing s there))
  simp only [spec, Metadata.markedAnnotations_again]

/-- Credentials pick a pod by its labels, which stay as they are. -/
lemma Pod.labels_injectAll (p : Pod) (grants : List Grant) :
    (p.injectAll grants).labels = p.labels := by
  rw [injectAll_eq]
  rfl

/-! ## The pod that is stored -/

namespace PodInjected

variable {raw result result' : Json}

/-- A pod with credentials is made of something if it was before. -/
lemma any_spec (injected : PodInjected grants raw result) :
    (result.get? "spec").any (· ≠ .null) = (raw.get? "spec").any (· ≠ .null) := by
  rcases injected.spec with ⟨-, same⟩ | ⟨s, s', there, there', spec⟩
  · rw [same]
  · obtain ⟨fields, fields', rfl, rfl, -⟩ := spec.others
    rw [there, there']
    rfl

/-- The volumes are the same when the credentials are injected again. -/
lemma podVolumes_again (injected : PodInjected grants raw result)
    (again : PodInjected grants result result') : result'.podVolumes = result.podVolumes := by
  rcases again.outfit with ⟨-, volumes, -⟩ | ⟨made, volumes, -⟩
  · exact volumes
  · rcases injected.outfit with ⟨nothing, -⟩ | ⟨-, first, -⟩
    · rw [injected.any_spec, nothing] at made
      cases made
    · rw [volumes, volumeNames_eq first, volumeEntries_again, List.append_nil]

/-- If nothing changes when credentials are injected there was nothing to be given. -/
lemma bare_of_same (same : PodInjected grants raw raw) (some_container : raw.podContainers ≠ []) :
    Bare grants := by
  have unchanged : ∀ {x : Option Json} {more : List Json}, x = appended x more → more = [] := by
    intro x more h
    have lists := congrArg itemsOf h
    rw [itemsOf_appended] at lists
    simpa using lists
  rcases same.spec with ⟨blank, -⟩ | ⟨s, s', there, there', spec⟩
  · refine absurd ?_ some_container
    rcases blank with blank | blank
    · simp only [Json.podContainers, blank]
      rfl
    · simp only [Json.podContainers, blank]
      rfl
  · obtain rfl : s = s' := Option.some.inj (there.symm.trans there')
    have each : ∀ c ∈ raw.podContainers, ContainerInjected grants c c := by
      intro c listed
      simp only [Json.podContainers, there, Option.bind_some] at listed
      rcases List.mem_append.1 listed with listed | listed
      · exact List.forall₂_same.1 (forall₂_of_eachItem spec.containers) c listed
      · exact List.forall₂_same.1 (forall₂_of_eachItem spec.initContainers) c listed
    obtain ⟨c, listed⟩ := List.exists_mem_of_ne_nil _ some_container
    exact bare_iff_entries.2 ⟨unchanged (each c listed).env, unchanged (each c listed).mounts⟩

/-- A pod that is given the directory of a grant twice is not taken any more. -/
lemma refused_again (injected : PodInjected grants raw result)
    (again : PodInjected grants result result') (some_container : result.podContainers ≠ [])
    {g : Grant} (chosen : g ∈ grants) (wanted : g.spec.injection.volume.isSome) :
    ¬result'.AcceptablePod := by
  intro acceptable
  obtain ⟨m, entry⟩ : ∃ m, g.mountEntry? = some m :=
    Option.isSome_iff_exists.1 (by rw [Grant.mountEntry?, Option.isSome_map, wanted])
  have given : m ∈ grants.filterMap Grant.mountEntry? := List.mem_filterMap.2 ⟨g, chosen, entry⟩
  obtain ⟨c, listed⟩ := List.exists_mem_of_ne_nil _ some_container
  have mounted : m ∈ c.mounts := (injected.forall_mounts (P := fun ms => m ∈ ms)).2
    (fun _ _ => List.mem_append_right _ given) c listed
  have paths := (again.forall_mounts (P := fun ms => (ms.map (textAt "mountPath")).Nodup)).1
    acceptable.paths_distinct c listed
  rw [List.map_append] at paths
  exact (List.nodup_append.1 paths).2.2 _ (List.mem_map_of_mem mounted) _
    (List.mem_map_of_mem given) rfl

end PodInjected

namespace Pod

variable {raw result : Json} {object : DynamicObject} {pod : Pod}

lemma getD_of_given {α : Type} {read : Json → Option α} {x : Option Json} {o : Option (List α)}
    (given : Json.Given (fun i => Json.list? read i.normalize) x o) (blank : itemsOf x = []) :
    o.getD [] = [] := by
  cases given with
  | missing => rfl
  | null => rfl
  | value value =>
    obtain ⟨items, rfl, each⟩ := Json.items_of_normalized value
    obtain rfl : items = [] := blank
    exact List.forall₂_nil_left_iff.1 each

/-- A pod that was sent without containers is read without any. -/
lemma containers_read (read : DynamicObject.ofJson? raw = some object)
    (decodes : ofJson? object.toJson = some pod) (none_sent : raw.podContainers = [])
    {s : PodSpec} (there : pod.spec = some s) :
    s.containers = [] ∧ s.initContainers.getD [] = [] := by
  cases raw with
  | object top =>
    have given := spec_given read decodes
    rw [there] at given
    generalize sent : Json.lookup top "spec" = x at given
    cases given with
    | value value =>
      obtain ⟨fields, rfl, ⟨cs, containers, listed⟩, inits, -⟩ := PodSpec.given value
      simp only [Json.podContainers, Json.get?, sent, Option.bind_some,
        List.append_eq_nil_iff] at none_sent
      rw [listed]
      exact ⟨getD_of_given containers none_sent.1, getD_of_given inits none_sent.2⟩
  | _ => cases read

/-- The pod that is stored is read again and given the same once more, which changes it unless no
container is given anything. -/
theorem injected_twice (read : DynamicObject.ofJson? raw = some object)
    (decodes : ofJson? object.toJson = some pod)
    (stored : raw.patched? (pod.injectionPatch grants) = some result) :
    ∃ object', DynamicObject.ofJson? result = some object' ∧
      ofJson? object'.toJson = some (pod.injectAll grants) ∧
      ∃ result', result.patched? ((pod.injectAll grants).injectionPatch grants) = some result' ∧
        PodInjected grants result result' ∧
        (result' = result ↔ result.podContainers = [] ∨ Bare grants) := by
  have injected := injected_of_patched read decodes stored
  obtain ⟨object', read', decodes'⟩ := read_patched read decodes stored
  obtain ⟨result', patched, again⟩ : ∃ result',
      result.patched? ((pod.injectAll grants).injectionPatch grants) = some result' ∧
        PodInjected grants result result' := by
    obtain ⟨m, m', -, described, marked⟩ := injected.metadata
    obtain ⟨_, parts, -, rfl, -⟩ := marked.others
    obtain ⟨_, top, -, rfl, -⟩ := injected.others
    obtain ⟨result', patched, again, -⟩ := Pod.patched read' decodes' described grants
    exact ⟨result', patched, again⟩
  refine ⟨object', read', decodes', result', patched, again, fun same => ?_, fun nothing => ?_⟩
  · rw [same] at again
    exact or_iff_not_imp_left.2 again.bare_of_same
  · have unchanged : (pod.injectAll grants).injectAll grants = pod.injectAll grants := by
      refine injectAll_again fun s made => nothing.imp_left fun none_stored => ?_
      exact containers_read read decodes (injected.podContainers_eq_nil_iff.1 none_stored) made
    rw [injectionPatch, unchanged, Json.diff_normalize_self] at patched
    exact (Option.some.inj patched).symm

end Pod

/-! ## The second question -/

/-- The answer to a question about a pod that was given credentials, with the same grants. -/
lemma ReviewRequest.podAnswer_again {q : ReviewRequest} {pod : Pod} {all : List Grant}
    (chosen : (all.filter fun g => g.MeantFor pod.labels) = grants) (some_grant : grants ≠ []) :
    q.podAnswer (pod.injectAll grants) all =
      { q.allow with patch := some ((pod.injectAll grants).injectionPatch grants) } := by
  rw [podAnswer, pod.labels_injectAll grants, chosen]
  exact if_neg some_grant

lemma ReviewRequest.namespaceOf_again (q : ReviewRequest) (pod : Pod) (grants : List Grant) :
    q.namespaceOf (pod.injectAll grants) = (q.ns.or pod.metadata.ns).getD "" := by
  rw [Pod.injectAll_eq]
  rfl

/-- A pod that has been given credentials is given them again, whatever is about to be done to it:
when it is asked about a second time, with the same grants in its namespace, it passes with a patch
that adds the same variables and mounts to every container once more and leaves the volumes as they
are.  The pod stays as it is if and only if no container is given anything, and with two mounts
under one path the cluster does not take it. -/
theorem injected_again {request raw result : Json} {q : ReviewRequest} {pod : Pod}
    (asked : ReviewRequest.ofJson? request = some q) (sent : request.get? "object" = some raw)
    (decodes : (q.object.bind fun o => Pod.ofJson? o.toJson) = some pod)
    {ds : List Deed} {r : ReviewResponse} (run : q.mutatePod.Runs ds r)
    (listed : Deed.request (.listGrants ((q.ns.or pod.metadata.ns).getD "")) (.ok grants) ∈ ds)
    (some_chosen : (grants.filter fun g => g.MeantFor pod.labels) ≠ [])
    (stored : r.carriedOut? raw = some result) :
    let chosen := grants.filter fun g => g.MeantFor pod.labels
    ∃ object, DynamicObject.ofJson? result = some object ∧
      ∀ q' : ReviewRequest, q'.object = some object →
        let listing := Deed.request (.listGrants ((q'.ns.or pod.metadata.ns).getD "")) (.ok grants)
        (∃ ds' r', q'.mutatePod.Runs ds' r' ∧ listing ∈ ds') ∧
          ∀ ds' r', q'.mutatePod.Runs ds' r' → listing ∈ ds' →
            r'.allowed = true ∧ r'.patch.isSome ∧
            ∃ result', r'.carriedOut? result = some result' ∧
              PodInjected chosen result result' ∧ result'.podVolumes = result.podVolumes ∧
              (result' = result ↔ result.podContainers = [] ∨ Bare chosen) ∧
              (result.podContainers ≠ [] → (∃ g ∈ chosen, g.spec.injection.volume.isSome) →
                ¬result'.AcceptablePod) := by
  intro chosen
  obtain ⟨first, there, decodes⟩ := Option.bind_eq_some_iff.1 decodes
  have read := ReviewRequest.object_read asked sent there
  have answer : r = { q.allow with patch := some (pod.injectionPatch chosen) } :=
    (ReviewRequest.eq_podAnswer there decodes run listed).trans (if_neg some_chosen)
  have patched : raw.patched? (pod.injectionPatch chosen) = some result := by
    rw [← stored, ReviewResponse.carriedOut?_of_patch (by rw [answer])]
  have injected := Pod.injected_of_patched read decodes patched
  obtain ⟨object, read', decodes', result', patched', again, same_iff⟩ :=
    Pod.injected_twice read decodes patched
  refine ⟨object, read', fun q' there' => ?_⟩
  have ns := q'.namespaceOf_again pod chosen
  intro listing
  obtain ⟨ds', run', listed'⟩ := ReviewRequest.exists_run there' decodes' grants
  rw [ns] at listed'
  refine ⟨⟨ds', _, run', listed'⟩, fun ds' r' run' listed' => ?_⟩
  have answer' := ReviewRequest.eq_podAnswer there' decodes' run' (by rw [ns]; exact listed')
  rw [ReviewRequest.podAnswer_again rfl some_chosen] at answer'
  rw [answer']
  refine ⟨rfl, rfl, result', ?_, again, injected.podVolumes_again again, same_iff, ?_⟩
  · rw [ReviewResponse.carriedOut?_of_patch rfl, patched']
  · rintro some_container ⟨g, given, wanted⟩
    exact injected.refused_again again some_container given wanted

namespace Sample

lemma everywhere_chosen :
    ([everywhere].filter fun g => g.MeantFor readPod.labels) = [everywhere] := by decide +kernel

/-- The pod of the sample is stored with the credential of the grant. -/
lemma pod_stored : ∃ ds r result, podQuestion.mutatePod.Runs ds r ∧
    Deed.request (.listGrants "team-a") (.ok [everywhere]) ∈ ds ∧
    r.carriedOut? sentPod = some result ∧
    sentPod.patched? (readPod.injectionPatch [everywhere]) = some result ∧
    result.podContainers ≠ [] := by
  obtain ⟨object, there, decodes⟩ := Option.bind_eq_some_iff.1 pod_decodes
  obtain ⟨ds, run, listed⟩ := ReviewRequest.exists_run there decodes [everywhere]
  obtain ⟨result, patched, injected⟩ :=
    Pod.patched_of_request pod_asked rfl rfl there decodes [everywhere]
  have answer : (podQuestion.podAnswer readPod [everywhere]).patch =
      some (readPod.injectionPatch [everywhere]) := by
    rw [ReviewRequest.podAnswer, everywhere_chosen]
    rfl
  refine ⟨ds, _, result, run, listed, ?_, patched,
    mt injected.podContainers_eq_nil_iff.1 (by decide)⟩
  rw [ReviewResponse.carriedOut?_of_patch answer, patched]

end Sample

/-- The pod of the sample is given the credential of the grant a second time when the question is
asked again, and is not taken then. -/
theorem sample_injected_again :
    ∃ ds r result object, Sample.podQuestion.mutatePod.Runs ds r ∧
      r.carriedOut? Sample.sentPod = some result ∧ DynamicObject.ofJson? result = some object ∧
      ∃ ds' r' result', { Sample.podQuestion with object := some object }.mutatePod.Runs ds' r' ∧
        r'.carriedOut? result = some result' ∧
        PodInjected [Sample.everywhere] result result' ∧ ¬result'.AcceptablePod := by
  obtain ⟨ds, r, result, run, listed, stored, -, some_container⟩ := Sample.pod_stored
  obtain ⟨object, read, again⟩ := injected_again Sample.pod_asked rfl Sample.pod_decodes run listed
    (by rw [Sample.everywhere_chosen]; exact List.cons_ne_nil _ _) stored
  obtain ⟨⟨ds', r', run', listed'⟩, each⟩ :=
    again { Sample.podQuestion with object := some object } rfl
  obtain ⟨-, -, result', stored', given, -, -, refused⟩ := each ds' r' run' listed'
  rw [Sample.everywhere_chosen] at given refused
  exact ⟨ds, r, result, object, run, stored, read, ds', r', result', run', stored', given,
    refused some_container ⟨_, List.mem_cons_self, rfl⟩⟩

/-- An update of the pod of the sample with the credential of the grant is answered with a patch,
which changes the pod. -/
theorem update_injected :
    ∃ ds r result object ds' r' result',
      ReviewRequest.ofJson? Sample.podRequest = some Sample.podQuestion ∧
      Sample.podQuestion.mutatePod.Runs ds r ∧
      Deed.request (.listGrants "team-a") (.ok [Sample.everywhere]) ∈ ds ∧
      r.carriedOut? Sample.sentPod = some result ∧ DynamicObject.ofJson? result = some object ∧
      { Sample.podQuestion with operation := .update, object := some object }.mutatePod.Runs
        ds' r' ∧
      Deed.request (.listGrants "team-a") (.ok [Sample.everywhere]) ∈ ds' ∧ r'.patch.isSome ∧
      r'.carriedOut? result = some result' ∧ result' ≠ result := by
  obtain ⟨ds, r, result, run, listed, stored, patched, some_container⟩ := Sample.pod_stored
  obtain ⟨first, there, decodes⟩ := Option.bind_eq_some_iff.1 Sample.pod_decodes
  obtain ⟨object, read, decodes', result', patched', -, same_iff⟩ := Pod.injected_twice
    (ReviewRequest.object_read Sample.pod_asked rfl there) decodes patched
  let update : ReviewRequest :=
    { Sample.podQuestion with operation := .update, object := some object }
  obtain ⟨ds', run', listed'⟩ :=
    ReviewRequest.exists_run (q := update) rfl decodes' [Sample.everywhere]
  have answer := update.podAnswer_again Sample.everywhere_chosen (List.cons_ne_nil _ _)
  rw [answer] at run'
  rw [update.namespaceOf_again] at listed'
  refine ⟨ds, r, result, object, ds', _, result', Sample.pod_asked, run, listed, stored, read, run',
    listed', rfl, ?_, fun same => ?_⟩
  · rw [ReviewResponse.carriedOut?_of_patch rfl, patched']
  · -- the only container is given the variable and the mount again
    rcases same_iff.1 same with none_there | bare
    · exact some_container none_there
    · exact absurd (bare _ List.mem_cons_self).1 (List.cons_ne_nil _ _)

end CredentialOperator
