import CredentialOperator.Proofs.Grant.RoundTrip
import CredentialOperator.Provider.Codec

/-!
# Providers written and read

Like grants, providers are read strictly and survive being written, part by part.  The main
statement is `resources_round_trip`: whatever can be read as the request or the status of a grant,
as the declaration or the status of a provider, as a condition or as a selector, is read again from
what is written for it.  No rule about missing, empty or defaulted fields, about the limits of
numbers or about the texts of instants gets in the way.
-/

namespace CredentialOperator

open Json

/-! ## Normal forms -/

lemma SecretKeyReference.steady_ofJson? : Steady ofJson? :=
  .record <| .bind (steady_string?.required "name") fun _ =>
    .bind (steady_string?.required "namespace") fun _ =>
    .bind (steady_string?.required "key") fun _ => .some _

lemma RotationPolicy.steady_ofJson? : Steady ofJson? :=
  .record <| .bind (steady_bool?.defaulted "enabled" false) fun _ =>
    .bind (steady_string?.optional "interval") fun _ =>
    .bind (steady_named?.optional "strategy") fun _ => .some _

lemma ApiKeyAuth.steady_ofJson? : Steady ofJson? :=
  .record <| .bind (SecretKeyReference.steady_ofJson?.required "secretRef") fun _ =>
    .bind (RotationPolicy.steady_ofJson?.optional "rotation") fun _ => .some _

lemma StoreReference.steady_ofJson? : Steady ofJson? :=
  .record <| .bind (steady_string?.required "name") fun _ =>
    .bind (steady_named?.required "kind") fun _ => .some _

lemma RemoteReference.steady_ofJson? : Steady ofJson? :=
  .record <| .bind (steady_string?.required "key") fun _ =>
    .bind (steady_string?.optional "property") fun _ =>
    .bind (steady_string?.optional "version") fun _ => .some _

lemma ExternalSecretAuth.steady_ofJson? : Steady ofJson? :=
  .record <| .bind (StoreReference.steady_ofJson?.required "store") fun _ =>
    .bind (RemoteReference.steady_ofJson?.required "remoteRef") fun _ =>
    .bind (steady_string?.optional "refreshInterval") fun _ => .some _

lemma AwsIdentity.steady_ofJson? : Steady ofJson? :=
  .record <| .bind (steady_string?.required "roleArn") fun _ =>
    .bind (steady_string?.required "region") fun _ => .some _

lemma AzureIdentity.steady_ofJson? : Steady ofJson? :=
  .record <| .bind (steady_string?.required "clientId") fun _ =>
    .bind (steady_string?.required "tenantId") fun _ =>
    .bind (steady_string?.optional "managedIdentityResourceId") fun _ => .some _

lemma GcpIdentity.steady_ofJson? : Steady ofJson? :=
  .record <| .bind (steady_string?.required "serviceAccountEmail") fun _ =>
    .bind (steady_string?.required "projectId") fun _ => .some _

lemma WorkloadIdentityAuth.steady_ofJson? : Steady ofJson? :=
  .record <| .bind (AwsIdentity.steady_ofJson?.optional "aws") fun _ =>
    .bind (AzureIdentity.steady_ofJson?.optional "azure") fun _ =>
    .bind (GcpIdentity.steady_ofJson?.optional "gcp") fun _ => .some _

lemma Auth.steady_ofJson? : Steady ofJson? :=
  .record <| .bind (steady_named?.required "type") fun _ =>
    .bind (ApiKeyAuth.steady_ofJson?.optional "apiKey") fun _ =>
    .bind (ExternalSecretAuth.steady_ofJson?.optional "externalSecret") fun _ =>
    .bind (WorkloadIdentityAuth.steady_ofJson?.optional "workloadIdentity") fun _ => .some _

lemma RateLimit.steady_ofJson? : Steady ofJson? :=
  .record <| .bind (steady_nat64?.optional "requestsPerMinute") fun _ =>
    .bind (steady_nat64?.optional "tokensPerMinute") fun _ => .some _

lemma Endpoint.steady_ofJson? : Steady ofJson? :=
  .record <| .bind (steady_string?.optional "baseUrl") fun _ => .some _

lemma ProviderSpec.steady_ofJson? : Steady ofJson? :=
  .record <| .bind (steady_named?.required "provider") fun _ =>
    .bind (Auth.steady_ofJson?.required "auth") fun _ =>
    .bind (steady_strings?.defaulted "allowedCapabilities" []) fun _ =>
    .bind (RateLimit.steady_ofJson?.optional "rateLimit") fun _ =>
    .bind (Selector.steady_ofJson?.optional "namespaceSelector") fun _ =>
    .bind (Endpoint.steady_ofJson?.optional "endpoint") fun _ => .some _

lemma ProviderStatus.steady_ofJson? : Steady ofJson? :=
  .record <| .bind (Condition.steady_ofJson?.list?.defaulted "conditions" []) fun _ =>
    .bind (steady_named?.optional "lastCredentialCheck") fun _ =>
    .bind (steady_integer?.defaulted "grantCount" 0) fun _ => .some _

/-! ## Round trips -/

lemma SecretKeyReference.lossless : Lossless toJson ofJson? := by
  refine .record fun given r h => ?_
  simp only [Option.bind_eq_bind, Option.bind_eq_some_iff, Option.some.injEq] at h ⊢
  obtain ⟨_, name, _, ns, _, key, rfl⟩ := h
  refine ⟨_, lossless_string.required name ?_, _, lossless_string.required ns ?_,
    _, lossless_string.required key ?_, rfl⟩
  all_goals simp [occurrences_append, occurrences_entry]

lemma RotationPolicy.lossless : Lossless toJson ofJson? := by
  refine .record fun given r h => ?_
  simp only [Option.bind_eq_bind, Option.bind_eq_some_iff, Option.some.injEq] at h ⊢
  obtain ⟨_, enabled, _, interval, _, strategy, rfl⟩ := h
  refine ⟨_, lossless_bool.defaulted enabled rfl ?_, _, lossless_string.optional interval ?_,
    _, (lossless_named RotationStrategy.ofText?_text).optional strategy ?_, rfl⟩
  all_goals simp [occurrences_append, occurrences_entry, occurrences_optionalEntry]

lemma ApiKeyAuth.lossless : Lossless toJson ofJson? := by
  refine .record fun given a h => ?_
  simp only [Option.bind_eq_bind, Option.bind_eq_some_iff, Option.some.injEq] at h ⊢
  obtain ⟨_, reference, _, rotation, rfl⟩ := h
  refine ⟨_, SecretKeyReference.lossless.required reference ?_,
    _, RotationPolicy.lossless.optional rotation ?_, rfl⟩
  all_goals simp [occurrences_append, occurrences_entry, occurrences_optionalEntry]

lemma StoreReference.lossless : Lossless toJson ofJson? := by
  refine .record fun given r h => ?_
  simp only [Option.bind_eq_bind, Option.bind_eq_some_iff, Option.some.injEq] at h ⊢
  obtain ⟨_, name, _, kind, rfl⟩ := h
  refine ⟨_, lossless_string.required name ?_,
    _, (lossless_named StoreKind.ofText?_text).required kind ?_, rfl⟩
  all_goals simp [occurrences_append, occurrences_entry]

lemma RemoteReference.lossless : Lossless toJson ofJson? := by
  refine .record fun given r h => ?_
  simp only [Option.bind_eq_bind, Option.bind_eq_some_iff, Option.some.injEq] at h ⊢
  obtain ⟨_, key, _, property, _, version, rfl⟩ := h
  refine ⟨_, lossless_string.required key ?_, _, lossless_string.optional property ?_,
    _, lossless_string.optional version ?_, rfl⟩
  all_goals simp [occurrences_append, occurrences_entry, occurrences_optionalEntry]

lemma ExternalSecretAuth.lossless : Lossless toJson ofJson? := by
  refine .record fun given a h => ?_
  simp only [Option.bind_eq_bind, Option.bind_eq_some_iff, Option.some.injEq] at h ⊢
  obtain ⟨_, store, _, remote, _, interval, rfl⟩ := h
  refine ⟨_, StoreReference.lossless.required store ?_,
    _, RemoteReference.lossless.required remote ?_, _, lossless_string.optional interval ?_, rfl⟩
  all_goals simp [occurrences_append, occurrences_entry, occurrences_optionalEntry]

lemma AwsIdentity.lossless : Lossless toJson ofJson? := by
  refine .record fun given i h => ?_
  simp only [Option.bind_eq_bind, Option.bind_eq_some_iff, Option.some.injEq] at h ⊢
  obtain ⟨_, role, _, region, rfl⟩ := h
  refine ⟨_, lossless_string.required role ?_, _, lossless_string.required region ?_, rfl⟩
  all_goals simp [occurrences_append, occurrences_entry]

lemma AzureIdentity.lossless : Lossless toJson ofJson? := by
  refine .record fun given i h => ?_
  simp only [Option.bind_eq_bind, Option.bind_eq_some_iff, Option.some.injEq] at h ⊢
  obtain ⟨_, client, _, tenant, _, managed, rfl⟩ := h
  refine ⟨_, lossless_string.required client ?_, _, lossless_string.required tenant ?_,
    _, lossless_string.optional managed ?_, rfl⟩
  all_goals simp [occurrences_append, occurrences_entry, occurrences_optionalEntry]

lemma GcpIdentity.lossless : Lossless toJson ofJson? := by
  refine .record fun given i h => ?_
  simp only [Option.bind_eq_bind, Option.bind_eq_some_iff, Option.some.injEq] at h ⊢
  obtain ⟨_, account, _, project, rfl⟩ := h
  refine ⟨_, lossless_string.required account ?_, _, lossless_string.required project ?_, rfl⟩
  all_goals simp [occurrences_append, occurrences_entry]

lemma WorkloadIdentityAuth.lossless : Lossless toJson ofJson? := by
  refine .record fun given a h => ?_
  simp only [Option.bind_eq_bind, Option.bind_eq_some_iff, Option.some.injEq] at h ⊢
  obtain ⟨_, aws, _, azure, _, gcp, rfl⟩ := h
  refine ⟨_, AwsIdentity.lossless.optional aws ?_, _, AzureIdentity.lossless.optional azure ?_,
    _, GcpIdentity.lossless.optional gcp ?_, rfl⟩
  all_goals simp [occurrences_append, occurrences_optionalEntry]

lemma Auth.lossless : Lossless toJson ofJson? := by
  refine .record fun given a h => ?_
  simp only [Option.bind_eq_bind, Option.bind_eq_some_iff, Option.some.injEq] at h ⊢
  obtain ⟨_, type, _, apiKey, _, external, _, workload, rfl⟩ := h
  refine ⟨_, (lossless_named AuthType.ofText?_text).required type ?_,
    _, ApiKeyAuth.lossless.optional apiKey ?_, _, ExternalSecretAuth.lossless.optional external ?_,
    _, WorkloadIdentityAuth.lossless.optional workload ?_, rfl⟩
  all_goals simp [occurrences_append, occurrences_entry, occurrences_optionalEntry]

lemma RateLimit.lossless : Lossless toJson ofJson? := by
  refine .record fun given r h => ?_
  simp only [Option.bind_eq_bind, Option.bind_eq_some_iff, Option.some.injEq] at h ⊢
  obtain ⟨_, requests, _, tokens, rfl⟩ := h
  refine ⟨_, lossless_nat64.optional requests ?_, _, lossless_nat64.optional tokens ?_, rfl⟩
  all_goals simp [occurrences_append, occurrences_optionalEntry]

lemma Endpoint.lossless : Lossless toJson ofJson? := by
  refine .record fun given e h => ?_
  simp only [Option.bind_eq_bind, Option.bind_eq_some_iff, Option.some.injEq] at h ⊢
  obtain ⟨_, base, rfl⟩ := h
  refine ⟨_, lossless_string.optional base ?_, rfl⟩
  simp [occurrences_optionalEntry]

lemma ProviderSpec.lossless : Lossless toJson ofJson? := by
  refine .record fun given s h => ?_
  simp only [Option.bind_eq_bind, Option.bind_eq_some_iff, Option.some.injEq] at h ⊢
  obtain ⟨_, provider, _, auth, _, allowed, _, limits, _, selector, _, endpoint, rfl⟩ := h
  refine ⟨_, (lossless_named ProviderType.ofText?_text).required provider ?_,
    _, Auth.lossless.required auth ?_, _, lossless_string.entries allowed ?_,
    _, RateLimit.lossless.optional limits ?_, _, Selector.lossless.optional selector ?_,
    _, Endpoint.lossless.optional endpoint ?_, rfl⟩
  all_goals
    simp [occurrences_append, occurrences_entry, occurrences_optionalEntry, occurrences_entries]

lemma ProviderStatus.lossless : Lossless toJson ofJson? := by
  refine .record fun given s h => ?_
  simp only [Option.bind_eq_bind, Option.bind_eq_some_iff, Option.some.injEq] at h ⊢
  obtain ⟨_, conditions, _, checked, _, count, rfl⟩ := h
  refine ⟨_, Condition.lossless.entries conditions ?_, _, lossless_timestamp.optional checked ?_,
    _, lossless_integer.defaulted count rfl ?_, rfl⟩
  all_goals
    simp [occurrences_append, occurrences_entry, occurrences_optionalEntry, occurrences_entries]

/-- What tenants, owners and the operator itself have written is never lost: requests and statuses of
grants, declarations and statuses of providers, conditions and selectors are read again from what is
written for them, which is in a settled form. -/
theorem resources_round_trip :
    RoundTrips GrantSpec.toJson GrantSpec.ofJson? ∧
      RoundTrips GrantStatus.toJson GrantStatus.ofJson? ∧
      RoundTrips ProviderSpec.toJson ProviderSpec.ofJson? ∧
      RoundTrips ProviderStatus.toJson ProviderStatus.ofJson? ∧
      RoundTrips Condition.toJson Condition.ofJson? ∧
      RoundTrips Selector.toJson Selector.ofJson? :=
  ⟨GrantSpec.lossless.roundTrips GrantSpec.steady_ofJson?,
    GrantStatus.lossless.roundTrips GrantStatus.steady_ofJson?,
    ProviderSpec.lossless.roundTrips ProviderSpec.steady_ofJson?,
    ProviderStatus.lossless.roundTrips ProviderStatus.steady_ofJson?,
    Condition.lossless.roundTrips Condition.steady_ofJson?,
    Selector.lossless.roundTrips Selector.steady_ofJson?⟩

namespace Sample

/-- A status with a leap second that a clock in another zone shows, and no capabilities. -/
def sentStatus : Json :=
  .object [("observed", .null), ("lastRotation", .string "2017-01-01 07:59:60.1234567890+08:00"),
    ("nextRotation", .null), ("grantedCapabilities", .array [])]

/-- The status as it is read. -/
def readStatus : GrantStatus where
  lastRotation := some ⟨1483228799, 1123456789, by decide⟩

end Sample

/-- The leap second is written in the zone of the operator, and read again. -/
theorem sample_resources_round_trip :
    GrantStatus.ofJson? Sample.sentStatus = some Sample.readStatus ∧
      Sample.readStatus.toJson =
        .object [("lastRotation", .string "2016-12-31T23:59:60.123456789Z")] ∧
      GrantStatus.ofJson? Sample.readStatus.toJson = some Sample.readStatus := by
  have read : GrantStatus.ofJson? Sample.sentStatus = some Sample.readStatus := by decide +kernel
  exact ⟨read, by decide +kernel, resources_round_trip.2.1.again _ _ read⟩

end CredentialOperator
