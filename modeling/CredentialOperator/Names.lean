import CredentialOperator.Json.Record

/-! # Names and marks

The names by which the operator is known in the cluster: its kinds, its finalizer, the labels
and annotations that it sets, and the keys of the Secrets that it makes.
-/

namespace CredentialOperator

/-- The group of the operator's kinds. -/
def operatorGroup : String := "keygate.dev"

/-- The version of the operator's kinds. -/
def operatorVersion : String := "v1alpha1"

/-- Group and version as they stand in objects. -/
def operatorApiVersion : String := "keygate.dev/v1alpha1"

/-- The kind of grants. -/
def grantKind : String := "CredentialGrant"

/-- The kind of providers. -/
def providerKind : String := "CredentialProvider"

/-- The finalizer that holds back the deletion of a grant until its artifact is gone. -/
def cleanupFinalizer : String := "keygate.dev/cleanup"

/-- The name under which the operator owns the fields that it applies. -/
def fieldManager : String := "keygate-controller"

/-- The label for what the operator manages. -/
def managedByLabel : String := "keygate.dev/managed-by"

/-- The value of that label. -/
def managedByValue : String := "keygate"

/-- The label for the provider of an artifact. -/
def providerLabel : String := "keygate.dev/provider"

/-- The label for the grant of an artifact. -/
def grantLabel : String := "keygate.dev/grant"

/-- The label for the type of authentication behind an artifact. -/
def authTypeLabel : String := "keygate.dev/auth-type"

/-- The selector of the Secrets that the operator makes. -/
def managedSecretSelector : String := managedByLabel ++ "=" ++ managedByValue

/-- The annotation that lists the providers whose credentials a pod was given. -/
def injectedProvidersMark : String := "keygate.dev/injected-providers"

/-- The annotation that tells whether a pod was given credentials. -/
def injectionStatusMark : String := "keygate.dev/injection-status"

/-- The value of that annotation on a pod that was. -/
def injectedValue : String := "injected"

/-- The beginning of the names of the volumes that a pod is given. -/
def injectedVolumeStart : String := "keygate-"

/-- The key of the credential in an artifact. -/
def apiKeyKey : String := "apiKey"

/-- The key of the base address in an artifact. -/
def baseUrlKey : String := "baseUrl"

/-- The key of the provider's type in an artifact. -/
def providerKey : String := "provider"

/-- The labels of an artifact. -/
def artifactLabels (provider grant authType : String) : StringMap :=
  ((((∅ : StringMap).insert managedByLabel managedByValue).insert providerLabel provider).insert
    grantLabel grant).insert authTypeLabel authType

end CredentialOperator
