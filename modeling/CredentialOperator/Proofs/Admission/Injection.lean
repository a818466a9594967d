import CredentialOperator.Proofs.Admission.PodPatch
import CredentialOperator.Proofs.Cluster.Runs
import CredentialOperator.Proofs.Json.PatchDocument

/-!
# Pods are given the credentials that are meant for them

A question about a pod is answered after the grants of its namespace were listed.  The grants
that are meant for the pod are those with a valid selector that picks it.  If there are none the
pod passes as it is; otherwise it passes with a patch which, carried out on the pod as it was
sent, gives it the credentials of these grants and changes nothing else
(`credentials_injected`).
-/

namespace CredentialOperator

namespace ReviewRequest

variable {request raw : Json} {q : ReviewRequest}

/-- The object of a question is read from the value that was sent. -/
lemma object_read (asked : ofJson? request = some q) (sent : request.get? "object" = some raw)
    {object : DynamicObject} (there : q.object = some object) :
    DynamicObject.ofJson? raw = some object := by
  cases request with
  | object fields =>
    have read : Json.optional fields "object" DynamicObject.ofJson? = some q.object := by
      simp only [ofJson?, Option.bind_eq_bind] at asked
      obtain ⟨_, is_object, asked⟩ := Option.bind_eq_some_iff.1 asked
      obtain rfl := Option.some.inj is_object
      -- the object is the last field that is read
      repeat
        rw [Option.bind_eq_some_iff] at asked
        obtain ⟨_, read, asked⟩ := asked
      obtain rfl := Option.some.inj asked
      exact read
    have value : Json.lookup fields "object" = some raw := sent
    rw [Json.lookup_eq_getLast?] at value
    rw [there] at read
    unfold Json.optional Json.single? at read
    cases values : Json.occurrences fields "object" with
    | nil => simp [values] at value
    | cons v rest =>
      cases rest with
      | cons w rest => simp [values] at read
      | nil =>
        obtain rfl : v = raw := by simpa [values] using value
        simp only [values] at read
        exact Json.exists_of_nullable? read
  | _ => cases asked

/-- Credentials that are injected are measured one by one. -/
lemma runs_noted {ns : String} {grants : List Grant} {ds : List Deed} {r : PUnit} :
    (grants.forM fun g => Program.note (.injection ns g.spec.provider)).Runs ds r ↔
      ds = grants.map fun g => .measure (.injection ns g.spec.provider) := by
  induction grants generalizing ds with
  | nil => simp
  | cons g rest ih =>
    rw [List.forM_eq_forM, List.forM_cons, Program.runs_bind, List.map_cons]
    constructor
    · rintro ⟨_, _, ds, first, others, rfl⟩
      rw [Program.runs_note.1 first, ih.1 others]
      rfl
    · rintro rfl
      exact ⟨_, (), _, Program.runs_note.2 rfl, ih.2 rfl, rfl⟩

/-- The answer to a question about a pod whose namespace has some grants. -/
def podAnswer (q : ReviewRequest) (pod : Pod) (grants : List Grant) : ReviewResponse :=
  let chosen := grants.filter fun g => g.MeantFor pod.labels
  if chosen = [] then q.allow else { q.allow with patch := some (pod.injectionPatch chosen) }

lemma runs_injectGrants {ns : String} {pod : Pod} {grants : List Grant} {ds : List Deed}
    {r : ReviewResponse} : (q.injectGrants ns pod grants).Runs ds r ↔
      ds = ((grants.filter fun g => g.MeantFor pod.labels).map fun g =>
        .measure (.injection ns g.spec.provider)) ∧ r = q.podAnswer pod grants := by
  unfold injectGrants podAnswer
  rw [Grant.filter_selects]
  generalize grants.filter (fun g => g.MeantFor pod.labels) = chosen
  cases chosen with
  | nil => simp
  | cons g rest =>
    simp only [Program.runs_bind, runs_noted, Program.pure_eq, Program.runs_done]
    constructor
    · rintro ⟨_, _, _, rfl, ⟨rfl, rfl⟩, rfl⟩
      simp
    · rintro ⟨rfl, rfl⟩
      exact ⟨_, (), [], rfl, ⟨rfl, by simp⟩, by simp⟩

section

variable {object : DynamicObject} {pod : Pod} {grants : List Grant}

/-- The namespace whose grants are listed for a pod. -/
def namespaceOf (q : ReviewRequest) (pod : Pod) : String := (q.ns.or pod.metadata.ns).getD ""

lemma mutatePod_eq {pod? : Json → Option Pod} (there : q.object = some object)
    (decodes : pod? object.toJson = some pod) :
    q.mutatePod pod? = Program.send (.listGrants (q.namespaceOf pod)) >>= fun
      | .error _ => pure q.allow
      | .ok grants => q.injectGrants (q.namespaceOf pod) pod grants := by
  unfold mutatePod
  rw [there]
  simp only [decodes]
  refine bind_congr fun o => ?_
  cases o <;> rfl

/-- There is a run for every list of grants. -/
lemma exists_run (there : q.object = some object)
    (decodes : Pod.ofJson? object.toJson = some pod) (grants : List Grant) :
    ∃ ds, q.mutatePod.Runs ds (q.podAnswer pod grants) ∧
      Deed.request (.listGrants (q.namespaceOf pod)) (.ok grants) ∈ ds := by
  rw [mutatePod_eq there decodes]
  exact ⟨_, Program.runs_bind.2 ⟨_, .ok grants, _, Program.runs_send.2 rfl,
    runs_injectGrants.2 ⟨rfl, rfl⟩, rfl⟩, List.mem_cons_self⟩

/-- The answer depends on the pod and the grants that were listed. -/
lemma eq_podAnswer (there : q.object = some object)
    (decodes : Pod.ofJson? object.toJson = some pod) {ds : List Deed} {r : ReviewResponse}
    (run : q.mutatePod.Runs ds r)
    (listed : Deed.request (.listGrants (q.namespaceOf pod)) (.ok grants) ∈ ds) :
    r = q.podAnswer pod grants := by
  rw [mutatePod_eq there decodes] at run
  obtain ⟨_, o, ds, first, rest, rfl⟩ := Program.runs_bind.1 run
  obtain rfl := Program.runs_send.1 first
  cases o with
  | error e =>
    obtain ⟨rfl, -⟩ := Program.runs_done.1 rest
    simp at listed
  | ok gs =>
    obtain ⟨rfl, rfl⟩ := runs_injectGrants.1 rest
    obtain rfl : grants = gs := by simpa using listed
    rfl

end

end ReviewRequest

/-- The patch can be carried out on the pod in the request. -/
lemma Pod.patched_of_request {request raw : Json} {q : ReviewRequest} {object : DynamicObject}
    {pod : Pod} {metadata : Fields} (asked : ReviewRequest.ofJson? request = some q)
    (sent : request.get? "object" = some raw)
    (described : raw.get? "metadata" = some (.object metadata))
    (there : q.object = some object) (decodes : ofJson? object.toJson = some pod)
    (grants : List Grant) : ∃ result,
      raw.patched? (pod.injectionPatch grants) = some result ∧ PodInjected grants raw result := by
  cases raw with
  | object top =>
    obtain ⟨result, done, injected, -⟩ :=
      Pod.patched (ReviewRequest.object_read asked sent there) decodes described grants
    exact ⟨result, done, injected⟩
  | _ => cases described

/-- A pod is given the credentials that are meant for it, and nothing else changes: whenever the
grants were listed, and they can be, the patch in the answer can be carried out on the pod that was
sent and gives it them. -/
theorem credentials_injected {request raw : Json} {q : ReviewRequest} {pod : Pod}
    {metadata : Fields} (asked : ReviewRequest.ofJson? request = some q)
    (sent : request.get? "object" = some raw)
    (described : raw.get? "metadata" = some (.object metadata))
    (decodes : (q.object.bind fun o => Pod.ofJson? o.toJson) = some pod) (grants : List Grant) :
    let listing := Deed.request (.listGrants ((q.ns.or pod.metadata.ns).getD "")) (.ok grants)
    let chosen := grants.filter fun g => g.MeantFor pod.labels
    (∃ ds r, q.mutatePod.Runs ds r ∧ listing ∈ ds) ∧
      ∀ ds r, q.mutatePod.Runs ds r → listing ∈ ds →
        r.allowed = true ∧ (chosen = [] → r.patch = none) ∧
          (chosen ≠ [] → ∃ patch result, r.patch = some patch ∧
            raw.patchedBy? (patch.map Json.Operation.toJson) = some result ∧
            PodInjected chosen raw result) := by
  intro listing chosen
  obtain ⟨object, there, decodes⟩ := Option.bind_eq_some_iff.1 decodes
  obtain ⟨ds, run, listed⟩ := ReviewRequest.exists_run there decodes grants
  refine ⟨⟨ds, _, run, listed⟩, fun ds r run listed => ?_⟩
  have answer : r = if chosen = [] then q.allow
      else { q.allow with patch := some (pod.injectionPatch chosen) } :=
    ReviewRequest.eq_podAnswer there decodes run listed
  rw [answer]
  by_cases none_chosen : chosen = []
  · rw [if_pos none_chosen]
    exact ⟨rfl, fun _ => rfl, fun some_chosen => absurd none_chosen some_chosen⟩
  · rw [if_neg none_chosen]
    refine ⟨rfl, fun none_chosen' => absurd none_chosen' none_chosen, fun _ => ?_⟩
    obtain ⟨result, patched, injected⟩ :=
      Pod.patched_of_request asked sent described there decodes chosen
    exact ⟨_, result, rfl, by rw [Json.patchedBy?_toJson, patched], injected⟩

namespace Sample

/-- A pod with one container that mounts a volume. -/
def sentPod : Json :=
  .object [("apiVersion", .string "v1"), ("kind", .string "Pod"),
    ("metadata", .object [("name", .string "chatbot-7d9f"), ("annotations", .null)]),
    ("spec", .object [
      ("volumes", .array [.object [("name", .string "tmp"), ("emptyDir", .object [])]]),
      ("containers", .array [.object [("name", .string "app"), ("image", .string "chatbot:1"),
        ("env", .null), ("volumeMounts", .array [.object [("name", .string "tmp"),
          ("mountPath", .string "/tmp")]])]])])]

/-- A question about it. -/
def podRequest : Json :=
  .object [("uid", .string "705ab4f5"),
    ("kind", .object [("group", .string ""), ("version", .string "v1"), ("kind", .string "Pod")]),
    ("resource", .object [("group", .string ""), ("version", .string "v1"),
      ("resource", .string "pods")]),
    ("operation", .string "CREATE"), ("namespace", .string "team-a"), ("userInfo", .object []),
    ("object", sentPod)]

/-- The pod as it is read. -/
def readPod : Pod where
  metadata := { name := some "chatbot-7d9f" }
  spec := some {
    containers := [{
      name := "app"
      env := none
      volumeMounts := some [{ name := "tmp", mountPath := "/tmp", readOnly := none, others := [] }]
      others := [("image", .string "chatbot:1")] }]
    initContainers := none
    volumes := some [{ name := "tmp", others := [("emptyDir", .object [])] }]
    others := [] }

/-- The question as it is read. -/
def podQuestion : ReviewRequest where
  uid := "705ab4f5"
  operation := .create
  ns := some "team-a"
  object := some {
    type := some ⟨"v1", "Pod"⟩
    metadata := { name := some "chatbot-7d9f" }
    data := [("spec", .object [
      ("containers", .array [.object [("env", .null), ("image", .string "chatbot:1"),
        ("name", .string "app"), ("volumeMounts", .array [.object [("mountPath", .string "/tmp"),
          ("name", .string "tmp")]])]]),
      ("volumes", .array [.object [("emptyDir", .object []), ("name", .string "tmp")]])])] }

/-- A grant for every pod of its namespace, with a directory and a variable. -/
def everywhere : Grant where
  metadata := { name := some "chatbot-openai", ns := some "team-a" }
  spec := { provider := "openai-prod", secretName := "chatbot-openai-key",
            workloadSelector := some {},
            injection := { env := [⟨"OPENAI_API_KEY", "apiKey"⟩],
                           volume := some { mountPath := "/var/run/secrets/keygate" } } }

lemma pod_asked : ReviewRequest.ofJson? podRequest = some podQuestion := rfl

lemma pod_decodes :
    (podQuestion.object.bind fun o => Pod.ofJson? o.toJson) = some readPod := by decide +kernel

end Sample

/-- The pod of the sample is given the credential of the grant. -/
theorem sample_credentials_injected :
    ∃ ds r patch result, Sample.podQuestion.mutatePod.Runs ds r ∧ r.allowed = true ∧
      r.patch = some patch ∧
      Sample.sentPod.patchedBy? (patch.map Json.Operation.toJson) = some result ∧
      PodInjected [Sample.everywhere] Sample.sentPod result := by
  have chosen : ([Sample.everywhere].filter fun g => g.MeantFor Sample.readPod.labels) =
      [Sample.everywhere] := by decide +kernel
  obtain ⟨⟨ds, r, run, listed⟩, each⟩ :=
    credentials_injected Sample.pod_asked rfl rfl Sample.pod_decodes [Sample.everywhere]
  obtain ⟨allowed, -, given⟩ := each ds r run listed
  rw [chosen] at given
  obtain ⟨patch, result, patch_given, patched, injected⟩ := given (List.cons_ne_nil _ _)
  exact ⟨ds, r, patch, result, run, allowed, patch_given, patched, injected⟩

end CredentialOperator
