import CredentialOperator.Json.Shape
import CredentialOperator.Resource.Metadata

/-! # Pods

A pod as far as credentials are injected into it: its metadata, its volumes, and the variables
and mounts of its containers.  All other fields are kept as they were read; they must have their
forms, which leave open what stands deep in some of them.
-/

namespace CredentialOperator

/-- A variable of a container. -/
structure EnvVar where
  /-- The name of the variable. -/
  name : String
  /-- Where its value comes from. -/
  others : Fields
deriving DecidableEq

/-- A volume that a container mounts. -/
structure VolumeMount where
  /-- The name of the volume. -/
  name : String
  /-- The path under which it is seen. -/
  mountPath : String
  /-- Whether it may only be read. -/
  readOnly : Option Bool
  /-- All other fields. -/
  others : Fields
deriving DecidableEq

/-- A container. -/
structure Container where
  /-- The name of the container. -/
  name : String
  /-- Its variables. -/
  env : Option (List EnvVar)
  /-- Its volumes. -/
  volumeMounts : Option (List VolumeMount)
  /-- All other fields. -/
  others : Fields
deriving DecidableEq

/-- A volume of a pod. -/
structure Volume where
  /-- The name of the volume. -/
  name : String
  /-- What it holds. -/
  others : Fields
deriving DecidableEq

/-- What a pod is made of. -/
structure PodSpec where
  /-- The containers. -/
  containers : List Container
  /-- The containers that run first. -/
  initContainers : Option (List Container)
  /-- The volumes. -/
  volumes : Option (List Volume)
  /-- All other fields. -/
  others : Fields
deriving DecidableEq

/-- A pod. -/
structure Pod where
  /-- The metadata. -/
  metadata : Metadata
  /-- What it is made of. -/
  spec : Option PodSpec
deriving DecidableEq

/-! ## The forms of other fields -/

namespace PodForm

/-- A reference to an object of the same namespace, or to a part of it. -/
def nameRef (more : List (String × Json.Shape)) : Json.Shape :=
  .record (("name", .string) :: more)

/-- A reference to a key of an object. -/
def keyRef : Json.Shape := nameRef [("key", .string), ("optional", .bool)]

/-- A reference to a field of the pod. -/
def fieldRef : Json.Shape := .record [("apiVersion", .string), ("fieldPath", .string)]

/-- A reference to a resource of a container. -/
def resourceRef : Json.Shape :=
  .record [("containerName", .string), ("divisor", .string), ("resource", .string)]

/-- The fields of a variable. -/
def env : List (String × Json.Shape) :=
  [("value", .string),
    ("valueFrom", .record [("configMapKeyRef", keyRef), ("fieldRef", fieldRef),
      ("resourceFieldRef", resourceRef), ("secretKeyRef", keyRef)])]

/-- The fields of a mount. -/
def mount : List (String × Json.Shape) :=
  [("mountPropagation", .string), ("recursiveReadOnly", .string), ("subPath", .string),
    ("subPathExpr", .string)]

/-- A list of keys with the paths under which they are seen. -/
def items : Json.Shape :=
  .list (.record [("key", .string), ("mode", .int32), ("path", .string)])

/-- A list of files that show parts of the pod. -/
def downwardItems : Json.Shape :=
  .list (.record [("fieldRef", fieldRef), ("mode", .int32), ("path", .string),
    ("resourceFieldRef", resourceRef)])

/-- The parts of a volume that is put together. -/
def projections : Json.Shape :=
  .list (.record [
    ("configMap", nameRef [("items", items), ("optional", .bool)]),
    ("downwardAPI", .record [("items", downwardItems)]),
    ("secret", nameRef [("items", items), ("optional", .bool)]),
    ("serviceAccountToken", .record [("audience", .string), ("expirationSeconds", .int64),
      ("path", .string)])])

/-- The fields of a volume. -/
def volume : List (String × Json.Shape) :=
  [("configMap", nameRef [("defaultMode", .int32), ("items", items), ("optional", .bool)]),
    ("csi", .record [("driver", .string), ("fsType", .string),
      ("nodePublishSecretRef", nameRef []), ("readOnly", .bool),
      ("volumeAttributes", .map .string)]),
    ("downwardAPI", .record [("defaultMode", .int32), ("items", downwardItems)]),
    ("emptyDir", .record [("medium", .string), ("sizeLimit", .string)]),
    ("hostPath", .record [("path", .string), ("type", .string)]),
    ("nfs", .record [("path", .string), ("readOnly", .bool), ("server", .string)]),
    ("persistentVolumeClaim", .record [("claimName", .string), ("readOnly", .bool)]),
    ("projected", .record [("defaultMode", .int32), ("sources", projections)]),
    ("secret", .record [("defaultMode", .int32), ("items", items), ("optional", .bool),
      ("secretName", .string)])]

/-- What can be done to a container to find out how it is. -/
def handler : List (String × Json.Shape) :=
  [("exec", .record [("command", .list .string)]),
    ("httpGet", .record [("host", .string),
      ("httpHeaders", .list (.record [("name", .string), ("value", .string)])),
      ("path", .string), ("port", .intOrString), ("scheme", .string)]),
    ("tcpSocket", .record [("host", .string), ("port", .intOrString)])]

/-- A probe of a container. -/
def probe : Json.Shape :=
  .record (handler ++ [("failureThreshold", .int32),
    ("grpc", .record [("port", .int32), ("service", .string)]),
    ("initialDelaySeconds", .int32), ("periodSeconds", .int32), ("successThreshold", .int32),
    ("terminationGracePeriodSeconds", .int64), ("timeoutSeconds", .int32)])

/-- The port of a container. -/
def port : Json.Shape :=
  .record [("containerPort", .int32), ("hostIP", .string), ("hostPort", .int32),
    ("name", .string), ("protocol", .string)]

/-- The fields of a container. -/
def container : List (String × Json.Shape) :=
  [("args", .list .string), ("command", .list .string),
    ("envFrom", .list (.record [("configMapRef", nameRef [("optional", .bool)]),
      ("prefix", .string), ("secretRef", nameRef [("optional", .bool)])])),
    ("image", .string), ("imagePullPolicy", .string),
    ("lifecycle", .record [("postStart", .record handler), ("preStop", .record handler)]),
    ("livenessProbe", probe), ("ports", .list port), ("readinessProbe", probe),
    ("resources", .record [("claims", .list (nameRef [("request", .string)])),
      ("limits", .map .string), ("requests", .map .string)]),
    ("restartPolicy", .string), ("securityContext", .record []), ("startupProbe", probe),
    ("stdin", .bool), ("stdinOnce", .bool), ("terminationMessagePath", .string),
    ("terminationMessagePolicy", .string), ("tty", .bool),
    ("volumeDevices", .list (.record [("devicePath", .string), ("name", .string)])),
    ("workingDir", .string)]

/-- A container that is added to a running pod. -/
def ephemeralContainer : Json.Shape :=
  .record (container ++ [("env", .list (.record (("name", .string) :: env))),
    ("name", .string), ("targetContainerName", .string),
    ("volumeMounts", .list (.record (mount ++ [("mountPath", .string), ("name", .string),
      ("readOnly", .bool)])))])

/-- The fields of what a pod is made of. -/
def spec : List (String × Json.Shape) :=
  [("activeDeadlineSeconds", .int64), ("affinity", .record []),
    ("automountServiceAccountToken", .bool), ("dnsConfig", .record []), ("dnsPolicy", .string),
    ("enableServiceLinks", .bool), ("ephemeralContainers", .list ephemeralContainer),
    ("hostAliases", .list (.record [("hostnames", .list .string), ("ip", .string)])),
    ("hostIPC", .bool), ("hostNetwork", .bool), ("hostPID", .bool), ("hostUsers", .bool),
    ("hostname", .string), ("imagePullSecrets", .list (nameRef [])), ("nodeName", .string),
    ("nodeSelector", .map .string), ("os", nameRef []), ("overhead", .map .string),
    ("preemptionPolicy", .string), ("priority", .int32), ("priorityClassName", .string),
    ("restartPolicy", .string), ("runtimeClassName", .string), ("schedulerName", .string),
    ("securityContext", .record []), ("serviceAccount", .string),
    ("serviceAccountName", .string), ("setHostnameAsFQDN", .bool),
    ("shareProcessNamespace", .bool), ("subdomain", .string),
    ("terminationGracePeriodSeconds", .int64),
    ("tolerations", .list (.record [("effect", .string), ("key", .string),
      ("operator", .string), ("tolerationSeconds", .int64), ("value", .string)])),
    ("topologySpreadConstraints", .list (.record []))]

/-- The form of what is known about a running pod. -/
def status : Json.Shape :=
  .record [("hostIP", .string), ("message", .string), ("nominatedNodeName", .string),
    ("phase", .string), ("podIP", .string), ("qosClass", .string), ("reason", .string),
    ("startTime", .text fun s => (Timestamp.parse? s).isSome)]

end PodForm

/-! ## Pods as values -/

namespace EnvVar

/-- A variable as a value. -/
def toJson (v : EnvVar) : Json := .object (("name", .string v.name) :: v.others)

/-- Reads a variable. -/
def ofJson? (j : Json) : Option EnvVar := do
  let fields ← j.asObject?
  some {
    name := ← Json.lenientOr fields "name" "" Json.string?
    others := ← Json.others? fields ["name"] PodForm.env }

end EnvVar

namespace VolumeMount

/-- A mount as a value. -/
def toJson (m : VolumeMount) : Json :=
  .object <|
    Json.entry "mountPath" (.string m.mountPath) ++
    Json.entry "name" (.string m.name) ++
    Json.optionalEntry "readOnly" .bool m.readOnly ++
    m.others

/-- Reads a mount. -/
def ofJson? (j : Json) : Option VolumeMount := do
  let fields ← j.asObject?
  some {
    name := ← Json.lenientOr fields "name" "" Json.string?
    mountPath := ← Json.lenientOr fields "mountPath" "" Json.string?
    readOnly := ← Json.lenient fields "readOnly" Json.bool?
    others := ← Json.others? fields ["mountPath", "name", "readOnly"] PodForm.mount }

end VolumeMount

namespace Container

/-- A container as a value. -/
def toJson (c : Container) : Json :=
  .object <|
    Json.entry "name" (.string c.name) ++
    Json.optionalEntry "env" (fun vs => .array (vs.map EnvVar.toJson)) c.env ++
    Json.optionalEntry "volumeMounts" (fun ms => .array (ms.map VolumeMount.toJson)) c.volumeMounts ++
    c.others

/-- Reads a container. -/
def ofJson? (j : Json) : Option Container := do
  let fields ← j.asObject?
  some {
    name := ← Json.lenientOr fields "name" "" Json.string?
    env := ← Json.lenient fields "env" (Json.list? EnvVar.ofJson?)
    volumeMounts := ← Json.lenient fields "volumeMounts" (Json.list? VolumeMount.ofJson?)
    others := ← Json.others? fields ["name", "env", "volumeMounts"] PodForm.container }

end Container

namespace Volume

/-- A volume as a value. -/
def toJson (v : Volume) : Json := .object (("name", .string v.name) :: v.others)

/-- Reads a volume. -/
def ofJson? (j : Json) : Option Volume := do
  let fields ← j.asObject?
  some {
    name := ← Json.lenientOr fields "name" "" Json.string?
    others := ← Json.others? fields ["name"] PodForm.volume }

end Volume

namespace PodSpec

/-- What a pod is made of as a value. -/
def toJson (s : PodSpec) : Json :=
  .object <|
    Json.entry "containers" (.array (s.containers.map Container.toJson)) ++
    Json.optionalEntry "initContainers" (fun cs => .array (cs.map Container.toJson)) s.initContainers ++
    Json.optionalEntry "volumes" (fun vs => .array (vs.map Volume.toJson)) s.volumes ++
    s.others

/-- Reads what a pod is made of. -/
def ofJson? (j : Json) : Option PodSpec := do
  let fields ← j.asObject?
  some {
    containers := ← Json.lenientOr fields "containers" [] (Json.list? Container.ofJson?)
    initContainers := ← Json.lenient fields "initContainers" (Json.list? Container.ofJson?)
    volumes := ← Json.lenient fields "volumes" (Json.list? Volume.ofJson?)
    others := ← Json.others? fields ["containers", "initContainers", "volumes"] PodForm.spec }

end PodSpec

namespace Pod

/-- The labels of a pod. -/
def labels (p : Pod) : StringMap := p.metadata.labels.getD ∅

/-- A pod as a value. -/
def toJson (p : Pod) : Json :=
  .object <|
    Json.entry "apiVersion" (.string "v1") ++
    Json.entry "kind" (.string "Pod") ++
    Json.entry "metadata" p.metadata.toJson ++
    Json.optionalEntry "spec" PodSpec.toJson p.spec

/-- Reads a pod. -/
def ofJson? (j : Json) : Option Pod := do
  let fields ← j.asObject?
  let _ ← Json.lenient fields "status" (Json.shaped? PodForm.status)
  if Json.expects fields "apiVersion" "v1" && Json.expects fields "kind" "Pod" then
    some {
      metadata := ← Json.lenientOr fields "metadata" {} Metadata.ofJson?
      spec := ← Json.lenient fields "spec" PodSpec.ofJson? }
  else none

end Pod

end CredentialOperator
