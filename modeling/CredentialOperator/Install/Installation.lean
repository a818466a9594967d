import CredentialOperator.Http.Client
import CredentialOperator.Install.GrantSchema
import CredentialOperator.Install.ProviderSchema
import CredentialOperator.Install.Yaml

/-! # Installing the kinds of the operator

The definitions are applied to the cluster one after the other, that of providers first; the
first one that is refused ends the installation.  They can also be printed for an
installation by hand.
-/

namespace CredentialOperator

/-- The definitions of the operator's kinds, in the order in which they are installed. -/
def kindDefinitions : List KindDefinition := [providerDefinition, grantDefinition]

/-- The definition of the kind with the given name. -/
def kindDefinition? (kind : String) : Option KindDefinition :=
  kindDefinitions.find? (·.kind.kind = kind)

/-- The definitions as documents. -/
def kindManifests : String := Yaml.stream (kindDefinitions.map KindDefinition.toJson)

/-- A definition that was not installed. -/
structure InstallFailure where
  /-- The name of the definition. -/
  name : String
  /-- Why it was not. -/
  cause : ApiFailure

/-- The wording of a failure. -/
def InstallFailure.message (f : InstallFailure) : String :=
  "failed to install " ++ f.name ++ " CRD: " ++ f.cause.message

/-- The conversation that installs a definition. -/
def KindDefinition.install (d : KindDefinition) : Conversation Unit :=
  Conversation.apply d.name (Paths.definition d.name) d.toJson ReplyForm.definition?

/-- Installs definitions until one is refused. -/
def installKinds : List KindDefinition → ExceptT InstallFailure Exchange Unit
  | [] => pure ()
  | d :: rest => do
    match ← (ExceptT.lift d.install.run : ExceptT InstallFailure Exchange _) with
    | .ok () => installKinds rest
    | .error cause => throw { name := d.name, cause }

end CredentialOperator
