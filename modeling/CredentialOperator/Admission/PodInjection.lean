import CredentialOperator.Admission.Pod
import CredentialOperator.Admission.Review
import CredentialOperator.Cluster.Program

/-! # Injecting credentials into pods

A pod that is about to be stored is given the credentials of the grants of its namespace whose
selectors pick it.  Every container gets the variables and the directory of each of them, and
annotations tell whose credentials were given.  Nothing that goes wrong here keeps a pod from
being stored, except a pod that cannot be read.
-/

namespace CredentialOperator

namespace Grant

/-- Whether a grant is meant for pods with the given labels.  A grant without a selector, or
with one that is not valid, is meant for none. -/
def selects (g : Grant) (labels : StringMap) : Bool :=
  match g.spec.workloadSelector with
  | none => false
  | some selector => selector.isValid && selector.accepts labels

/-- The name of the volume that shows the artifact of a grant. -/
def volumeName (g : Grant) : String := injectedVolumeStart ++ g.name

/-- The variables that a container is given. -/
def envVars (g : Grant) : List EnvVar :=
  g.spec.injection.env.map fun m => {
    name := m.name
    others := [("valueFrom", .object [("secretKeyRef", .object [("key", .string m.secretKey),
      ("name", .string g.spec.secretName)])])] }

/-- The mount that a container is given. -/
def mount? (g : Grant) : Option VolumeMount :=
  g.spec.injection.volume.map fun v => {
    name := g.volumeName
    mountPath := v.mountPath
    readOnly := some v.readOnly
    others := [] }

/-- The volume that shows the artifact of a grant. -/
def volume (g : Grant) : Volume where
  name := g.volumeName
  others := [("secret", .object [("secretName", .string g.spec.secretName)])]

end Grant

namespace Container

/-- A container with more variables and perhaps one more mount. -/
def extend (c : Container) (env : List EnvVar) (mount : Option VolumeMount) : Container :=
  { c with
    env := if env.isEmpty then c.env else some (c.env.getD [] ++ env)
    volumeMounts :=
      match mount with
      | some m => some (c.volumeMounts.getD [] ++ [m])
      | none => c.volumeMounts }

end Container

namespace PodSpec

/-- The volumes of a pod with one more, unless there is one of its name. -/
def withVolume (volumes : Option (List Volume)) (v : Volume) : List Volume :=
  let old := volumes.getD []
  if old.any (·.name == v.name) then old else old ++ [v]

/-- What a pod is made of once it was given the credential of a grant. -/
def inject (s : PodSpec) (g : Grant) : PodSpec :=
  let extended := fun c : Container => c.extend g.envVars g.mount?
  { s with
    containers := s.containers.map extended
    initContainers := s.initContainers.map (·.map extended)
    volumes := if g.mount?.isSome then some (withVolume s.volumes g.volume) else s.volumes }

end PodSpec

namespace Pod

/-- A pod that was given the credential of a grant. -/
def inject (p : Pod) (g : Grant) : Pod := { p with spec := p.spec.map (·.inject g) }

/-- A pod with the annotations that tell whose credentials it was given. -/
def annotate (p : Pod) (providers : List String) : Pod :=
  { p with
    metadata.annotations := some <|
      ((p.metadata.annotations.getD ∅).insert injectedProvidersMark
        (",".intercalate providers)).insert injectionStatusMark injectedValue }

/-- A pod that was given the credentials of some grants. -/
def injectAll (p : Pod) (grants : List Grant) : Pod :=
  (grants.foldl inject p).annotate (grants.map (·.spec.provider))

/-- The patch that gives a pod the credentials of some grants. -/
def injectionPatch (p : Pod) (grants : List Grant) : Json.Patch :=
  Json.diff p.toJson.normalize (p.injectAll grants).toJson.normalize

end Pod

namespace ReviewRequest

/-- Answers a question about a pod of a namespace whose grants are known. -/
def injectGrants (q : ReviewRequest) (ns : String) (pod : Pod) (grants : List Grant) :
    Program ReviewResponse :=
  match grants.filter (·.selects pod.labels) with
  | [] => pure q.allow
  | chosen => do
    chosen.forM fun g => Program.note (.injection ns g.spec.provider)
    pure { q.allow with patch := some (pod.injectionPatch chosen) }

/-- Answers a question about a pod. -/
def mutatePod (q : ReviewRequest) (pod? : Json → Option Pod := Pod.ofJson?) :
    Program ReviewResponse :=
  match q.object with
  | none => pure q.allow
  | some object =>
    match pod? object.toJson with
    | none => pure (q.badRequest ("failed to decode pod: " ++ unspecifiedWording))
    | some pod => do
      let ns := (q.ns.or pod.metadata.ns).getD ""
      match ← Program.send (.listGrants ns) with
      | .error _ => pure q.allow
      | .ok grants => q.injectGrants ns pod grants

end ReviewRequest

end CredentialOperator
