import CredentialOperator.Proofs.Condition.Entries
import CredentialOperator.Reconcile.Grant

/-!
# What the statuses of grants say

A pass over a grant computes one of three statuses, each by entering conditions into the one
that the grant has.  The condition that was entered last is found again, with what it says;
and a status that is as good as another says the same, so that it makes no difference to a
reader whether a pass wrote its status or kept the old one.
-/

namespace CredentialOperator

/-- The condition that tells about a grant as a whole. -/
def GrantStatus.verdict? (s : GrantStatus) : Option Condition :=
  Condition.find? s.conditions GrantConditionType.ready.text

/-- The status tells that pods can be given the artifact. -/
def GrantStatus.IsReady (s : GrantStatus) : Prop := GrantState.ofConditions s.conditions = .ready

instance (s : GrantStatus) : Decidable s.IsReady :=
  inferInstanceAs (Decidable (_ = _))

namespace GrantStatus

lemma isReady_iff {s : GrantStatus} :
    s.IsReady ↔ ∃ c, s.verdict? = some c ∧ c.status = .true := by
  unfold IsReady GrantState.ofConditions verdict?
  cases Condition.find? s.conditions GrantConditionType.ready.text with
  | none =>
    cases Condition.find? s.conditions GrantConditionType.credentialProvisioned.text with
    | none => simp
    | some c => by_cases h : c.status = .false <;> simp [h]
  | some c =>
    by_cases h : c.status = .true
    · simp [h]
    · simp only [Option.some.injEq, exists_eq_left', h, if_false, iff_false]
      split
      · simp
      · split <;> simp

/-- A status that is as good as another gives the same verdict. -/
lemma verdict_of_equivalent {s t : GrantStatus} {c : Condition} (h : s.equivalent t = true)
    (hc : t.verdict? = some c) : ∃ b, s.verdict? = some b ∧ Condition.sameState b c = true := by
  simp only [equivalent, Bool.and_eq_true] at h
  exact Condition.find?_of_equivalent h.1.1.1.1 hc

end GrantStatus

namespace Grant

variable {g : Grant} {now : Timestamp}

/-- The condition that was entered last is found, and says what it was to say. -/
lemma verdict_enter (g : Grant) (now : Timestamp) (holds : Bool) (reason : GrantReason)
    (message : String) (s : GrantStatus) :
    ∃ c, (g.enter now .ready holds reason message s).verdict? = some c ∧
      c.status = .ofBool holds ∧ c.reason = reason.text := by
  obtain ⟨c, found, same⟩ :=
    Condition.find?_set s.conditions (g.condition now .ready holds reason message)
  obtain ⟨-, status, said, -⟩ := Condition.sameState_iff.1 same
  exact ⟨c, found, status, said⟩

lemma verdict_rejectedStatus (g : Grant) (now : Timestamp) (rej : Rejection) :
    ∃ c, (g.rejectedStatus now rej).verdict? = some c ∧ c.status = .false ∧
      c.reason = rej.reason.text :=
  verdict_enter g now false rej.reason rej.message g.statusOrEmpty

lemma verdict_failedStatus (g : Grant) (now : Timestamp) (message : String) :
    ∃ c, (g.failedStatus now message).verdict? = some c ∧ c.status = .false ∧
      c.reason = GrantReason.provisioningFailed.text :=
  verdict_enter g now false .provisioningFailed message _

lemma verdict_provisionedStatus (g : Grant) (now : Timestamp) (rotation : Rotation)
    (result : ProvisionResult) :
    ∃ c, (g.provisionedStatus now rotation result).verdict? = some c ∧ c.status = .true ∧
      c.reason = GrantReason.credentialReady.text :=
  verdict_enter g now true .credentialReady "credential is ready for injection" _

lemma not_isReady_rejectedStatus (rej : Rejection) : ¬ (g.rejectedStatus now rej).IsReady := by
  obtain ⟨c, found, status, -⟩ := verdict_rejectedStatus g now rej
  rw [GrantStatus.isReady_iff]
  rintro ⟨d, found', status'⟩
  obtain rfl : c = d := Option.some.inj (found.symm.trans found')
  simp [status] at status'

lemma not_isReady_failedStatus (message : String) : ¬ (g.failedStatus now message).IsReady := by
  obtain ⟨c, found, status, -⟩ := verdict_failedStatus g now message
  rw [GrantStatus.isReady_iff]
  rintro ⟨d, found', status'⟩
  obtain rfl : c = d := Option.some.inj (found.symm.trans found')
  simp [status] at status'

end Grant

end CredentialOperator
