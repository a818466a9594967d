import CredentialOperator.Admission.Review
import CredentialOperator.Failure.Basic
import CredentialOperator.Grant.Codec
import CredentialOperator.Text.Quoted
import CredentialOperator.Time.Interval

/-! # The rules for grants

What a tenant writes is compared with a list of rules before it is stored.  The first rule
that is broken is told; a grant that breaks none may still be warned about.
-/

namespace CredentialOperator

/-- How a grant breaks the rules. -/
inductive GrantViolation where
  /-- No provider is named. -/
  | noProvider
  /-- No artifact is named. -/
  | noSecretName
  /-- Pods would be given nothing. -/
  | noInjection
  /-- The name of the variable at an index is not allowed. -/
  | invalidEnvName (index : Nat) (name : String)
  /-- The path of the directory is empty. -/
  | noMountPath
  /-- The path of the directory does not begin at the root. -/
  | relativeMountPath
  /-- The interval of rotation is none. -/
  | invalidInterval (error : IntervalError)
  /-- The selector of pods is not allowed. -/
  | invalidSelector (error : SelectorError)
deriving DecidableEq, Repr

namespace GrantViolation

/-- The field that breaks a rule. -/
def field : GrantViolation → String
  | .noProvider => "spec.providerRef.name"
  | .noSecretName => "spec.secretName"
  | .noInjection => "spec.injection"
  | .invalidEnvName index _ => s!"spec.injection.env[{index}].name"
  | .noMountPath | .relativeMountPath => "spec.injection.volume.mountPath"
  | .invalidInterval _ => "spec.rotation.interval"
  | .invalidSelector _ => "spec.workloadSelector"

/-- The wording of a violation. -/
def message : GrantViolation → String
  | .noProvider | .noSecretName | .noMountPath => "must not be empty"
  | .noInjection => "must define at least one of: env or volume"
  | .invalidEnvName _ name =>
    "invalid env var name " ++ Text.quoted name ++ " (must match [A-Z_][A-Z0-9_]*)"
  | .relativeMountPath => "must be an absolute path"
  | .invalidInterval error => (Failure.invalid error.message).message
  | .invalidSelector error => error.message

/-- A violation as a failure that concerns a resource. -/
def toFailure (v : GrantViolation) (resource : String) : Failure :=
  .validation resource v.message (some v.field)

end GrantViolation

namespace GrantSpec

/-- The names of variables that the platform sets itself. -/
def reservedNames : List String :=
  ["KUBERNETES_SERVICE_HOST", "KUBERNETES_SERVICE_PORT", "HOSTNAME", "HOME"]

/-- Whether a character may begin the name of a variable. -/
def beginsEnvName (c : Char) : Bool := c.isUpper || c == '_'

/-- Whether a text may be the name of a variable. -/
def isEnvName (name : String) : Bool :=
  match name.toList with
  | [] => false
  | c :: rest => beginsEnvName c && rest.all fun c => beginsEnvName c || c.isDigit

/-- The first variable, counted from `index`, whose name is not allowed. -/
def badEnvName? (index : Nat) : List EnvMapping → Option GrantViolation
  | [] => none
  | m :: rest =>
    if isEnvName m.name then badEnvName? (index + 1) rest
    else some (.invalidEnvName index m.name)

/-- What is wrong with the directory. -/
def badVolume? (volume : Option VolumeMapping) : Option GrantViolation :=
  match volume with
  | none => none
  | some v =>
    match v.mountPath.toList with
    | [] => some .noMountPath
    | c :: _ => if c = '/' then none else some .relativeMountPath

/-- What is wrong with the interval of rotation. -/
def badInterval? (interval : Option String) : Option GrantViolation :=
  match interval.map Interval.parse with
  | some (.error e) => some (.invalidInterval e)
  | _ => none

/-- What is wrong with the selector of pods. -/
def badSelector? (selector : Option Selector) : Option GrantViolation :=
  match selector.map Selector.check with
  | some (.error e) => some (.invalidSelector e)
  | _ => none

/-- The first rule that a grant breaks. -/
def violation? (s : GrantSpec) : Option GrantViolation :=
  if s.provider.isEmpty then some .noProvider
  else if s.secretName.isEmpty then some .noSecretName
  else if s.injection.env.isEmpty && s.injection.volume.isNone then some .noInjection
  else
    (badEnvName? 0 s.injection.env)
      |>.or (badVolume? s.injection.volume)
      |>.or (badInterval? s.rotationInterval?)
      |>.or (badSelector? s.workloadSelector)

/-- The warnings about a grant: one for each variable that the platform sets itself. -/
def warnings (s : GrantSpec) : List String :=
  (s.injection.env.filter fun m => reservedNames.contains m.name).map fun m =>
    s!"env var '{m.name}' overrides reserved Kubernetes variable"

/-- Compares a grant with the rules; one that breaks none comes with its warnings. -/
def validate (s : GrantSpec) (resource : String) : Except Failure (List String) :=
  match s.violation? with
  | some v => .error (v.toFailure resource)
  | none => .ok s.warnings

end GrantSpec

/-- Answers a question about a grant: only what is about to be stored is compared with the
rules. -/
def ReviewRequest.validateGrant (q : ReviewRequest)
    (grant? : Json → Option Grant := Grant.ofJson?) : ReviewResponse :=
  match q.operation, q.object with
  | .create, some object | .update, some object =>
    match grant? object.toJson with
    | none => q.badRequest ("failed to decode CredentialGrant: " ++ unspecifiedWording)
    | some grant =>
      match grant.spec.validate (q.ns.getD "" ++ "/" ++ grant.name) with
      | .ok warnings => { q.allow with warnings }
      | .error failure => q.deny failure.message
  | _, _ => q.allow

end CredentialOperator
