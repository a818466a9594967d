import CredentialOperator.Failure.Basic
import Mathlib.Tactic.Common

/-!
# Verdicts on failures

Whether trying again can help is said twice about a credential that could not be provided: by the
strategy that failed, and by the failure of the operator that this becomes.  The operator goes by
the class of the code with which a request was refused, the strategy makes exceptions for two codes
that may be answered to a request without fault (`ProvisionFailure.Passing`).  Nothing else sets
the two verdicts apart (`verdict_kept_iff`): what the strategy gives up is given up by the operator
too, but a conflict, which the strategy would try again, counts as lasting once it is a failure of
the operator (`conflict_given_up`).
-/

namespace CredentialOperator

lemma ErrorResponse.blamesRequest_iff {r : ErrorResponse} :
    r.blamesRequest = true ↔ 400 ≤ r.code ∧ r.code < 500 := by
  simp [ErrorResponse.blamesRequest]

lemma Failure.isRetryable_cluster {cause : ApiFailure} :
    (Failure.cluster cause).isRetryable = true ↔ cause.blamesRequest = false := by
  simp [Failure.isRetryable]

namespace ProvisionFailure

/-- The server refused a request for something that may be over the next time. -/
inductive Passing : ProvisionFailure → Prop where
  /-- An object is missing. -/
  | missing {context : String} {r : ErrorResponse} (code : r.code = 404) :
    Passing (.cluster context (.refused r))
  /-- Somebody else wrote at the same time. -/
  | conflict {context : String} {r : ErrorResponse} (code : r.code = 409) :
    Passing (.cluster context (.refused r))

variable {f : ProvisionFailure} {context : String} {r : ErrorResponse}

lemma passing_refused_iff :
    Passing (.cluster context (.refused r)) ↔ r.code = 404 ∨ r.code = 409 := by
  constructor
  · intro passing
    cases passing with
    | missing code => exact .inl code
    | conflict code => exact .inr code
  · rintro (code | code)
    · exact .missing code
    · exact .conflict code

/-- The codes of what may be over the next time are codes that blame the request. -/
lemma blamesRequest_of_passing (passing : Passing (.cluster context (.refused r))) :
    r.blamesRequest = true := by
  rw [ErrorResponse.blamesRequest_iff]
  rcases passing_refused_iff.1 passing with code | code <;> omega

/-- A strategy gives up a request that was refused if the request is to blame, except for what may
be over the next time. -/
lemma isRetryable_refused_iff :
    (ProvisionFailure.cluster context (.refused r)).isRetryable = true ↔
      r.blamesRequest = false ∨ Passing (.cluster context (.refused r)) := by
  rw [passing_refused_iff]
  cases blamed : r.blamesRequest
  · simp [isRetryable, blamed]
  · simp [isRetryable, blamed]

lemma isRetryable_of_passing (passing : f.Passing) : f.isRetryable = true := by
  cases passing with
  | missing code => exact isRetryable_refused_iff.2 (.inr (.missing code))
  | conflict code => exact isRetryable_refused_iff.2 (.inr (.conflict code))

/-- The operator tries again what the strategy would try again, except for what may be over the
next time. -/
lemma isRetryable_toFailure_iff :
    f.toFailure.isRetryable = true ↔ f.isRetryable = true ∧ ¬ f.Passing := by
  have own {g : ProvisionFailure} (apart : ¬ g.Passing)
      (same : g.toFailure.isRetryable = g.isRetryable) :
      g.toFailure.isRetryable = true ↔ g.isRetryable = true ∧ ¬ g.Passing := by
    rw [same]
    exact (and_iff_left apart).symm
  cases f with
  | sourceSecretNotFound ns name => exact own nofun rfl
  | sourceKeyMissing ns name key => exact own nofun rfl
  | missingConfig provider => exact own nofun rfl
  | serialization message => exact own nofun rfl
  | internal message => exact own nofun rfl
  | cluster context cause =>
    cases cause with
    | unreadable => exact own nofun rfl
    | unsendable error => exact own nofun rfl
    | refused r =>
      have operator : (ProvisionFailure.cluster context (.refused r)).toFailure.isRetryable = true ↔
          r.blamesRequest = false := Failure.isRetryable_cluster
      rw [operator, isRetryable_refused_iff]
      constructor
      · intro blameless
        refine ⟨.inl blameless, fun passing => ?_⟩
        simp [blamesRequest_of_passing passing] at blameless
      · rintro ⟨blameless | passing, lasting⟩
        · exact blameless
        · exact absurd passing lasting

end ProvisionFailure

/-- The verdict on a failure to provide a credential is kept when it becomes a failure of the
operator, unless a request was refused for something that may be over the next time: then the
strategy would try again and the operator would not.  In no case does the operator try again what
the strategy gives up. -/
theorem verdict_kept_iff (f : ProvisionFailure) :
    (f.toFailure.isRetryable = f.isRetryable ↔ ¬ f.Passing) ∧
    (f.toFailure.isRetryable = true ↔ f.isRetryable = true ∧ ¬ f.Passing) := by
  refine ⟨⟨fun kept passing => ?_, fun lasting => ?_⟩, ProvisionFailure.isRetryable_toFailure_iff⟩
  · have retried := kept.trans (ProvisionFailure.isRetryable_of_passing passing)
    exact (ProvisionFailure.isRetryable_toFailure_iff.1 retried).2 passing
  · rw [Bool.eq_iff_iff, ProvisionFailure.isRetryable_toFailure_iff]
    exact and_iff_left lasting

namespace Sample

/-- The failure to apply a Secret that somebody else wrote at the same time. -/
def applyConflict : ProvisionFailure :=
  .cluster "failed to apply Secret team-a/chatbot-openai-key"
    (.refused ⟨"Failure", "the object has been modified", "Conflict", 409⟩)

end Sample

/-- The strategy would try again after the conflict of the sample, the operator would not. -/
theorem conflict_given_up :
    Sample.applyConflict.isRetryable = true ∧
      Sample.applyConflict.toFailure.isRetryable = false := by
  decide

end CredentialOperator
