import CredentialOperator.Proofs.Json.Lossless

/-!
# Grants written and read

Everything that a grant is made of is read strictly (`Steady`) and survives being written
(`Lossless`).  The request of a grant and its status are put together from these parts field by
field; conditions and selectors are parts of providers, too.
-/

namespace CredentialOperator

open Json

/-! ## Normal forms -/

lemma EnvMapping.steady_ofJson? : Steady ofJson? :=
  .record <| .bind (steady_string?.required "name") fun _ =>
    .bind (steady_string?.required "secretKey") fun _ => .some _

lemma VolumeMapping.steady_ofJson? : Steady ofJson? :=
  .record <| .bind (steady_string?.required "mountPath") fun _ =>
    .bind (steady_bool?.defaulted "readOnly" true) fun _ => .some _

lemma Injection.steady_ofJson? : Steady ofJson? :=
  .record <| .bind (EnvMapping.steady_ofJson?.list?.defaulted "env" []) fun _ =>
    .bind (VolumeMapping.steady_ofJson?.optional "volume") fun _ => .some _

lemma GrantRotation.steady_ofJson? : Steady ofJson? :=
  .record <| .bind (steady_string?.optional "interval") fun _ => .some _

lemma SelectorExpression.steady_ofJson? : Steady ofJson? :=
  .record <| .bind (steady_string?.required "key") fun _ =>
    .bind (steady_named?.required "operator") fun _ =>
    .bind (steady_strings?.defaulted "values" []) fun _ => .some _

lemma Selector.steady_ofJson? : Steady ofJson? :=
  .record <| .bind (steady_stringMap?.optional "matchLabels") fun _ =>
    .bind (SelectorExpression.steady_ofJson?.list?.defaulted "matchExpressions" []) fun _ =>
      .some _

lemma GrantSpec.steady_providerRef? : Steady providerRef? :=
  .record <| steady_string?.required "name"

lemma GrantSpec.steady_ofJson? : Steady ofJson? :=
  .record <| .bind (GrantSpec.steady_providerRef?.required "providerRef") fun _ =>
    .bind (steady_strings?.defaulted "capabilities" []) fun _ =>
    .bind (steady_string?.required "secretName") fun _ =>
    .bind (Selector.steady_ofJson?.optional "workloadSelector") fun _ =>
    .bind (Injection.steady_ofJson?.defaulted "injection" {}) fun _ =>
    .bind (GrantRotation.steady_ofJson?.optional "rotation") fun _ => .some _

lemma ArtifactReference.steady_ofJson? : Steady ofJson? :=
  .record <| .bind (steady_string?.required "kind") fun _ =>
    .bind (steady_string?.required "namespace") fun _ =>
    .bind (steady_string?.required "name") fun _ => .some _

lemma Condition.steady_ofJson? : Steady ofJson? :=
  .record <| .bind (steady_string?.required "type") fun _ =>
    .bind (steady_named?.required "status") fun _ =>
    .bind (steady_string?.required "reason") fun _ =>
    .bind (steady_string?.required "message") fun _ =>
    .bind (steady_named?.required "lastTransitionTime") fun _ =>
    .bind (steady_integer?.optional "observedGeneration") fun _ => .some _

lemma GrantStatus.steady_ofJson? : Steady ofJson? :=
  .record <| .bind (Condition.steady_ofJson?.list?.defaulted "conditions" []) fun _ =>
    .bind (ArtifactReference.steady_ofJson?.optional "secretRef") fun _ =>
    .bind (steady_named?.optional "lastRotation") fun _ =>
    .bind (steady_named?.optional "nextRotation") fun _ =>
    .bind (steady_strings?.defaulted "grantedCapabilities" []) fun _ => .some _

/-! ## Round trips -/

lemma Condition.lossless : Lossless toJson ofJson? := by
  refine .record fun given c h => ?_
  simp only [Option.bind_eq_bind, Option.bind_eq_some_iff, Option.some.injEq] at h ⊢
  obtain ⟨_, type, _, status, _, reason, _, message, _, since, _, generation, rfl⟩ := h
  refine ⟨_, lossless_string.required type ?_,
    _, (lossless_named ConditionStatus.ofText?_text).required status ?_,
    _, lossless_string.required reason ?_, _, lossless_string.required message ?_,
    _, lossless_timestamp.required since ?_, _, lossless_integer.optional generation ?_, rfl⟩
  all_goals simp [occurrences_append, occurrences_entry, occurrences_optionalEntry]

lemma SelectorExpression.lossless : Lossless toJson ofJson? := by
  refine .record fun given e h => ?_
  simp only [Option.bind_eq_bind, Option.bind_eq_some_iff, Option.some.injEq] at h ⊢
  obtain ⟨_, key, _, operator, _, values, rfl⟩ := h
  refine ⟨_, lossless_string.required key ?_,
    _, (lossless_named SelectorOperator.ofText?_text).required operator ?_,
    _, lossless_string.entries values ?_, rfl⟩
  all_goals simp [occurrences_append, occurrences_entry, occurrences_entries]

lemma Selector.lossless : Lossless toJson ofJson? := by
  refine .record fun given s h => ?_
  simp only [Option.bind_eq_bind, Option.bind_eq_some_iff, Option.some.injEq] at h ⊢
  obtain ⟨_, labels, _, expressions, rfl⟩ := h
  refine ⟨_, lossless_stringMap.optional labels ?_,
    _, SelectorExpression.lossless.entries expressions ?_, rfl⟩
  all_goals simp [occurrences_append, occurrences_optionalEntry, occurrences_entries]

lemma EnvMapping.lossless : Lossless toJson ofJson? := by
  refine .record fun given m h => ?_
  simp only [Option.bind_eq_bind, Option.bind_eq_some_iff, Option.some.injEq] at h ⊢
  obtain ⟨_, name, _, key, rfl⟩ := h
  refine ⟨_, lossless_string.required name ?_, _, lossless_string.required key ?_, rfl⟩
  all_goals simp [occurrences_append, occurrences_entry]

lemma VolumeMapping.lossless : Lossless toJson ofJson? := by
  refine .record fun given m h => ?_
  simp only [Option.bind_eq_bind, Option.bind_eq_some_iff, Option.some.injEq] at h ⊢
  obtain ⟨_, path, _, readOnly, rfl⟩ := h
  refine ⟨_, lossless_string.required path ?_, _, lossless_bool.defaulted readOnly rfl ?_, rfl⟩
  all_goals simp [occurrences_append, occurrences_entry]

lemma Injection.lossless : Lossless toJson ofJson? := by
  refine .record fun given i h => ?_
  simp only [Option.bind_eq_bind, Option.bind_eq_some_iff, Option.some.injEq] at h ⊢
  obtain ⟨_, env, _, volume, rfl⟩ := h
  refine ⟨_, EnvMapping.lossless.entries env ?_, _, VolumeMapping.lossless.optional volume ?_, rfl⟩
  all_goals simp [occurrences_append, occurrences_optionalEntry, occurrences_entries]

lemma GrantRotation.lossless : Lossless toJson ofJson? := by
  refine .record fun given r h => ?_
  simp only [Option.bind_eq_bind, Option.bind_eq_some_iff, Option.some.injEq] at h ⊢
  obtain ⟨_, interval, rfl⟩ := h
  refine ⟨_, lossless_string.optional interval ?_, rfl⟩
  simp [occurrences_optionalEntry]

namespace GrantSpec

lemma lossless_providerRef : Lossless providerRefJson providerRef? :=
  .record fun _ _ h => lossless_string.required h (by simp [occurrences_entry])

lemma lossless : Lossless toJson ofJson? := by
  refine .record fun given s h => ?_
  simp only [Option.bind_eq_bind, Option.bind_eq_some_iff, Option.some.injEq] at h ⊢
  obtain ⟨_, provider, _, capabilities, _, secretName, _, selector, _, injection, _, rotation,
    rfl⟩ := h
  refine ⟨_, lossless_providerRef.required provider ?_, _, lossless_string.entries capabilities ?_,
    _, lossless_string.required secretName ?_, _, Selector.lossless.optional selector ?_,
    _, Injection.lossless.defaulted injection rfl ?_,
    _, GrantRotation.lossless.optional rotation ?_, rfl⟩
  all_goals
    simp [occurrences_append, occurrences_entry, occurrences_optionalEntry, occurrences_entries]

end GrantSpec

lemma ArtifactReference.lossless : Lossless toJson ofJson? := by
  refine .record fun given r h => ?_
  simp only [Option.bind_eq_bind, Option.bind_eq_some_iff, Option.some.injEq] at h ⊢
  obtain ⟨_, kind, _, ns, _, name, rfl⟩ := h
  refine ⟨_, lossless_string.required kind ?_, _, lossless_string.required ns ?_,
    _, lossless_string.required name ?_, rfl⟩
  all_goals simp [occurrences_append, occurrences_entry]

lemma GrantStatus.lossless : Lossless toJson ofJson? := by
  refine .record fun given s h => ?_
  simp only [Option.bind_eq_bind, Option.bind_eq_some_iff, Option.some.injEq] at h ⊢
  obtain ⟨_, conditions, _, reference, _, last, _, next, _, granted, rfl⟩ := h
  refine ⟨_, Condition.lossless.entries conditions ?_,
    _, ArtifactReference.lossless.optional reference ?_, _, lossless_timestamp.optional last ?_,
    _, lossless_timestamp.optional next ?_, _, lossless_string.entries granted ?_, rfl⟩
  all_goals simp [occurrences_append, occurrences_optionalEntry, occurrences_entries]

end CredentialOperator
