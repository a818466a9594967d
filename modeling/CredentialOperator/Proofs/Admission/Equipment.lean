import CredentialOperator.Proofs.Admission.PodReading

/-!
# What pods are given

Credentials are injected into a pod for one grant after the other.  What all of them add to it
can be told at once: every container has the variables and mounts of all grants after its own,
in the order of the grants, and the pod has their volumes after its own, except those whose names
were there already (`Pod.foldl_inject`).

The same is told of the value that was sent (`PodInjected`), whose fields may be missing, `null`
or unknown: the entries are those that `Grant.envEntries`, `Grant.mountEntry?` and
`Grant.volumeEntry` spell out, and nothing else changes.
-/

namespace CredentialOperator

/-! ## What a pod is given -/

namespace Json

/-- A list in a field with more items at its end: a field that is missing or `null` counts as an
empty list, and without more items it stays as it is. -/
def appended (field : Option Json) (more : List Json) : Option Json :=
  if more = [] then field else some (.array (itemsOf field ++ more))

/-- Two objects have the same fields, apart from some names. -/
def AlikeBut (names : List String) (x y : Json) : Prop :=
  ∃ fs gs, x = .object fs ∧ y = .object gs ∧ ∀ n ∉ names, lookup gs n = lookup fs n

/-- Each item of a list in a field is changed in some way; any other field stays as it is. -/
def EachItem (change : Json → Json → Prop) (x y : Option Json) : Prop :=
  match x with
  | some (.array items) => ∃ results, y = some (.array results) ∧ List.Forall₂ change items results
  | _ => y = x

end Json

open Json (appended AlikeBut EachItem itemsOf)

namespace Grant

/-- The grant is meant for pods with the given labels: it has a selector, which is valid and picks
them. -/
def MeantFor (g : Grant) (labels : StringMap) : Prop :=
  ∃ s, g.spec.workloadSelector = some s ∧ s.isValid = true ∧ s.accepts labels = true

lemma selects_iff {g : Grant} {labels : StringMap} :
    g.selects labels = true ↔ g.MeantFor labels := by
  unfold selects MeantFor
  cases g.spec.workloadSelector <;> simp

instance (g : Grant) (labels : StringMap) : Decidable (g.MeantFor labels) :=
  decidable_of_iff _ selects_iff

lemma filter_selects (grants : List Grant) (labels : StringMap) :
    grants.filter (·.selects labels) = grants.filter fun g => g.MeantFor labels := by
  refine List.filter_congr fun g _ => ?_
  rw [Bool.eq_iff_iff, selects_iff, decide_eq_true_iff]

/-- The variables for a grant: each takes its value from a key of the artifact. -/
def envEntries (g : Grant) : List Json :=
  g.spec.injection.env.map fun m => .object [("name", .string m.name),
    ("valueFrom", .object [("secretKeyRef", .object [("key", .string m.secretKey),
      ("name", .string g.spec.secretName)])])]

/-- The mount for a grant, if it has a directory. -/
def mountEntry? (g : Grant) : Option Json :=
  g.spec.injection.volume.map fun v => .object [("mountPath", .string v.mountPath),
    ("name", .string g.volumeName), ("readOnly", .bool v.readOnly)]

/-- The volume for a grant. -/
def volumeEntry (g : Grant) : Json :=
  .object [("name", .string g.volumeName),
    ("secret", .object [("secretName", .string g.spec.secretName)])]

end Grant

/-- The volumes for some grants: one for each grant with a directory, unless a volume of its name
is there already. -/
def volumeEntries (present : List String) : List Grant → List Json
  | [] => []
  | g :: rest =>
    if g.spec.injection.volume.isSome ∧ g.volumeName ∉ present then
      g.volumeEntry :: volumeEntries (present ++ [g.volumeName]) rest
    else volumeEntries present rest

/-- A container has all variables and mounts for some grants after its own. -/
structure ContainerInjected (grants : List Grant) (x y : Json) : Prop where
  /-- Nothing else changes. -/
  others : AlikeBut ["env", "volumeMounts"] x y
  /-- The variables. -/
  env : y.get? "env" = appended (x.get? "env") (grants.flatMap Grant.envEntries)
  /-- The mounts. -/
  mounts : y.get? "volumeMounts" =
    appended (x.get? "volumeMounts") (grants.filterMap Grant.mountEntry?)

/-- What a pod is made of has been given credentials. -/
structure SpecInjected (grants : List Grant) (x y : Json) : Prop where
  /-- Nothing else changes. -/
  others : AlikeBut ["containers", "initContainers", "volumes"] x y
  /-- Each container is given them. -/
  containers : EachItem (ContainerInjected grants) (x.get? "containers") (y.get? "containers")
  /-- So is each of those that run first. -/
  initContainers :
    EachItem (ContainerInjected grants) (x.get? "initContainers") (y.get? "initContainers")
  /-- The volumes are there. -/
  volumes : y.get? "volumes" = appended (x.get? "volumes")
    (volumeEntries ((itemsOf (x.get? "volumes")).map (Json.textAt "name")) grants)

/-- Metadata tell by two annotations whose credentials were given. -/
structure MetadataMarked (grants : List Grant) (x y : Json) : Prop where
  /-- Nothing else changes. -/
  others : AlikeBut ["annotations"] x y
  /-- The two annotations are set, and the others are as before. -/
  annotations : ∃ notes, y.get? "annotations" = some (.object notes) ∧ ∀ n, Json.lookup notes n =
    if n = injectionStatusMark then some (.string injectedValue)
    else if n = injectedProvidersMark then
      some (.string (",".intercalate (grants.map (·.spec.provider))))
    else (x.get? "annotations").bind (·.get? n)

/-- A pod has been given the credentials of some grants. -/
structure PodInjected (grants : List Grant) (x y : Json) : Prop where
  /-- Nothing else changes. -/
  others : AlikeBut ["metadata", "spec"] x y
  /-- The annotations tell of it. -/
  metadata : ∃ m m', x.get? "metadata" = some m ∧ y.get? "metadata" = some m' ∧
    MetadataMarked grants m m'
  /-- What the pod is made of has been given them, if there is anything. -/
  spec : (x.get? "spec" = none ∨ x.get? "spec" = some .null) ∧ y.get? "spec" = x.get? "spec" ∨
    ∃ s s', x.get? "spec" = some s ∧ y.get? "spec" = some s' ∧ SpecInjected grants s s'

/-! ## Several grants at once -/

/-- A list that may be absent with more items at its end; without more items it stays as it is. -/
def extendList {α : Type} (old : Option (List α)) (more : List α) : Option (List α) :=
  if more.isEmpty then old else some (old.getD [] ++ more)

section

variable {α : Type}

@[simp] lemma extendList_nil (old : Option (List α)) : extendList old [] = old := rfl

@[simp] lemma extendList_some (xs more : List α) :
    extendList (some xs) more = some (xs ++ more) := by
  cases more <;> simp [extendList]

lemma extendList_append (old : Option (List α)) (xs ys : List α) :
    extendList (extendList old xs) ys = extendList old (xs ++ ys) := by
  cases old with
  | some zs => simp
  | none => cases xs <;> simp [extendList]

end

/-- A container with the variables and mounts for some grants. -/
def Container.equip (c : Container) (grants : List Grant) : Container :=
  { c with
    env := extendList c.env (grants.flatMap Grant.envVars)
    volumeMounts := extendList c.volumeMounts (grants.filterMap Grant.mount?) }

lemma Container.equip_nil (c : Container) : c.equip [] = c := rfl

lemma Container.equip_cons (c : Container) (g : Grant) (rest : List Grant) :
    (c.extend g.envVars g.mount?).equip rest = c.equip (g :: rest) := by
  have mounts : (c.extend g.envVars g.mount?).volumeMounts =
      extendList c.volumeMounts g.mount?.toList := by
    cases g.mount? <;> rfl
  have env : (c.extend g.envVars g.mount?).env = extendList c.env g.envVars := rfl
  have split : (g :: rest).filterMap Grant.mount? =
      g.mount?.toList ++ rest.filterMap Grant.mount? := by
    cases mount : g.mount? <;> simp [mount]
  simp only [equip, mounts, env, extendList_append, List.flatMap_cons, split]
  rfl

/-- The volumes that a pod is given for some grants. -/
def newVolumes (present : List String) : List Grant → List Volume
  | [] => []
  | g :: rest =>
    if g.spec.injection.volume.isSome ∧ g.volumeName ∉ present then
      g.volume :: newVolumes (present ++ [g.volumeName]) rest
    else newVolumes present rest

namespace PodSpec

/-- What a pod is made of with the variables, mounts and volumes for some grants. -/
def equip (s : PodSpec) (grants : List Grant) : PodSpec :=
  { s with
    containers := s.containers.map (·.equip grants)
    initContainers := s.initContainers.map (·.map (·.equip grants))
    volumes := extendList s.volumes (newVolumes ((s.volumes.getD []).map (·.name)) grants) }

lemma equip_nil (s : PodSpec) : s.equip [] = s := by
  simp [equip, newVolumes, Container.equip_nil]

/-- A volume of the first grant is there when those of the others are added. -/
lemma volumes_inject (s : PodSpec) (g : Grant) (rest : List Grant) :
    extendList (s.inject g).volumes
        (newVolumes (((s.inject g).volumes.getD []).map (·.name)) rest) =
      extendList s.volumes (newVolumes ((s.volumes.getD []).map (·.name)) (g :: rest)) := by
  have injected : (s.inject g).volumes =
      if g.spec.injection.volume.isSome then some (withVolume s.volumes g.volume)
      else s.volumes := by
    simp [inject, Grant.mount?]
  have named : (s.volumes.getD []).any (·.name == g.volume.name) = true ↔
      g.volumeName ∈ (s.volumes.getD []).map (·.name) := by
    simp [Grant.volume]
  rw [injected, newVolumes]
  by_cases wanted : g.spec.injection.volume.isSome = true
  · by_cases present : g.volumeName ∈ (s.volumes.getD []).map (·.name)
    · -- a pod with a volume has a list of volumes
      obtain ⟨vs, there⟩ : ∃ vs, s.volumes = some vs := by
        cases there : s.volumes with
        | some vs => exact ⟨vs, rfl⟩
        | none => simp [there] at present
      rw [if_pos wanted, if_neg fun h => h.2 present, withVolume, if_pos (named.2 present), there]
      rfl
    · rw [if_pos wanted, if_pos ⟨wanted, present⟩, withVolume, if_neg (mt named.1 present)]
      simp [extendList, Grant.volume]
  · rw [if_neg wanted, if_neg fun h => wanted h.1]

lemma equip_cons (s : PodSpec) (g : Grant) (rest : List Grant) :
    (s.inject g).equip rest = s.equip (g :: rest) := by
  simp only [equip, volumes_inject]
  simp [inject, Function.comp_def, Container.equip_cons]

lemma foldl_inject (s : PodSpec) (grants : List Grant) :
    grants.foldl inject s = s.equip grants := by
  induction grants generalizing s with
  | nil => exact s.equip_nil.symm
  | cons g rest ih => rw [List.foldl_cons, ih, equip_cons]

end PodSpec

/-- A pod is given the credentials of all grants at once. -/
lemma Pod.foldl_inject (p : Pod) (grants : List Grant) :
    grants.foldl Pod.inject p = { p with spec := p.spec.map (·.equip grants) } := by
  have folded : grants.foldl Pod.inject p =
      { p with spec := p.spec.map fun s => grants.foldl PodSpec.inject s } := by
    induction grants generalizing p with
    | nil => simp
    | cons g rest ih => simp [ih, Pod.inject, Function.comp_def]
  rw [folded]
  congr 2
  funext s
  exact s.foldl_inject grants

/-! ## Normal forms -/

namespace Grant

variable (g : Grant)

lemma normalize_envVars : (g.envVars.map fun v => v.toJson.normalize) = g.envEntries := by
  rw [envVars, List.map_map]
  rfl

lemma normalize_mount? : (g.mount?.map fun m => m.toJson.normalize) = g.mountEntry? := by
  rw [mount?, Option.map_map]
  rfl

lemma normalize_volume : g.volume.toJson.normalize = g.volumeEntry := rfl

end Grant

namespace Container

lemma normalize_env (grants : List Grant) :
    ((grants.flatMap Grant.envVars).map fun v => v.toJson.normalize) =
      grants.flatMap Grant.envEntries := by
  rw [List.map_flatMap]
  exact List.flatMap_congr fun g _ => g.normalize_envVars

lemma normalize_mounts (grants : List Grant) :
    ((grants.filterMap Grant.mount?).map fun m => m.toJson.normalize) =
      grants.filterMap Grant.mountEntry? := by
  rw [List.map_filterMap]
  exact List.filterMap_congr fun g _ => g.normalize_mount?

end Container

lemma normalize_newVolumes (present : List String) (grants : List Grant) :
    ((newVolumes present grants).map fun v => v.toJson.normalize) =
      volumeEntries present grants := by
  induction grants generalizing present with
  | nil => rfl
  | cons g rest ih =>
    unfold newVolumes volumeEntries
    split_ifs with added
    · rw [List.map_cons, ih, g.normalize_volume]
    · exact ih present

end CredentialOperator
