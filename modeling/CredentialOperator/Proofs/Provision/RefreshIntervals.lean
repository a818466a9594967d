import CredentialOperator.Proofs.Time.Intervals
import CredentialOperator.Provision.DelegatedSync

/-!
# Intervals of refreshing

The store from which values are copied has no unit for days, so the interval of a grant is written
anew for it.  Every interval that is read from a text is a whole number of minutes, and this is why
nothing is lost: what is written stands for the interval of the grant, and for no other
(`refresh_intervals_faithful`).  A grant without an interval leaves the choice to its provider,
whose text is handed on as it is.
-/

namespace CredentialOperator

namespace Interval

variable {i j : Interval} {s t : String}

lemma hoursOrMinutes_of_hours (hours : 3600 ∣ i.seconds) :
    ∃ n, n * 3600 = i.seconds ∧ i.hoursOrMinutes = toString n ++ "h" := by
  refine ⟨i.seconds / 3600, Nat.div_mul_cancel hours, ?_⟩
  rw [hoursOrMinutes, if_pos (Nat.mod_eq_zero_of_dvd hours)]
  rfl

lemma hoursOrMinutes_of_minutes (minutes : 60 ∣ i.seconds) (broken : ¬ 3600 ∣ i.seconds) :
    ∃ n, n * 60 = i.seconds ∧ i.hoursOrMinutes = toString n ++ "m" := by
  refine ⟨i.seconds / 60, Nat.div_mul_cancel minutes, ?_⟩
  rw [hoursOrMinutes, if_neg (mt Nat.dvd_of_mod_eq_zero broken)]
  rfl

/-- Intervals that were read are told apart by what is written for them. -/
lemma hoursOrMinutes_inj (read : parse s = .ok i) (read' : parse t = .ok j) :
    i.hoursOrMinutes = j.hoursOrMinutes ↔ i = j := by
  refine ⟨fun same => ?_, congrArg hoursOrMinutes⟩
  have reread := parse_hoursOrMinutes read
  rw [same, parse_hoursOrMinutes read'] at reread
  exact (Except.ok.inj reread).symm

lemma parse?_eq_none_iff {text : Option String} :
    parse? text = none ↔ ∀ t, text = some t → ∀ i, parse t ≠ .ok i := by
  rw [Option.eq_none_iff_forall_ne_some]
  constructor
  · intro none_read t given i read
    exact none_read i (parse?_eq_some.2 ⟨t, given, read⟩)
  · intro refused i read
    obtain ⟨t, given, read⟩ := parse?_eq_some.1 read
    exact refused t given i read

end Interval

namespace DelegatedSync

variable {grant provider : Option String} {g p : String} {i : Interval}

/-- The interval of the grant goes before that of the provider. -/
lemma refreshInterval_of_read (read : Interval.parse g = .ok i) :
    refreshInterval (some g) provider = i.hoursOrMinutes := by
  have own : Interval.parse? (some g) = some i := Interval.parse?_eq_some.2 ⟨g, rfl, read⟩
  simp only [refreshInterval, own]

lemma refreshInterval_of_provider (none_own : Interval.parse? grant = none) (given : p ≠ "") :
    refreshInterval grant (some p) = p := by
  simp [refreshInterval, none_own, Option.filter, given]

lemma refreshInterval_of_neither (none_own : Interval.parse? grant = none)
    (none_given : provider = none ∨ provider = some "") :
    refreshInterval grant provider = defaultRefreshInterval := by
  rcases none_given with rfl | rfl <;> simp [refreshInterval, none_own, Option.filter]

end DelegatedSync

open DelegatedSync in
/-- The interval of refreshing is faithful to the grant.  If the grant gives an interval, whatever
the provider gives, this is written as a number of hours if it is one, else as a number of minutes;
it is read again as the same interval, and what is written for two grants is the same exactly if
their intervals are.  If the grant gives none, the text of the provider is taken as it is, if there
is one, else an hour. -/
theorem refresh_intervals_faithful :
    (∀ g i, Interval.parse g = .ok i → ∀ p,
      Interval.parse (refreshInterval (some g) p) = .ok i ∧
      (3600 ∣ i.seconds →
        ∃ n, n * 3600 = i.seconds ∧ refreshInterval (some g) p = toString n ++ "h") ∧
      (¬ 3600 ∣ i.seconds →
        ∃ n, n * 60 = i.seconds ∧ refreshInterval (some g) p = toString n ++ "m") ∧
      ∀ g' i', Interval.parse g' = .ok i' → ∀ p',
        (refreshInterval (some g) p = refreshInterval (some g') p' ↔ i = i')) ∧
    ∀ grant, (∀ g, grant = some g → ∀ i, Interval.parse g ≠ .ok i) →
      (∀ p, p ≠ "" → refreshInterval grant (some p) = p) ∧
      ∀ provider, provider = none ∨ provider = some "" →
        refreshInterval grant provider = "1h" := by
  refine ⟨fun g i read p => ⟨?_, fun hours => ?_, fun broken => ?_, fun g' i' read' p' => ?_⟩,
    fun grant none_read => ?_⟩
  · rw [refreshInterval_of_read read]
    exact Interval.parse_hoursOrMinutes read
  · rw [refreshInterval_of_read read]
    exact Interval.hoursOrMinutes_of_hours hours
  · obtain ⟨-, minutes, -⟩ := (Interval.parse_eq_ok.1 read).seconds
    rw [refreshInterval_of_read read]
    exact Interval.hoursOrMinutes_of_minutes minutes broken
  · rw [refreshInterval_of_read read, refreshInterval_of_read read']
    exact Interval.hoursOrMinutes_inj read read'
  · have none_own := Interval.parse?_eq_none_iff.2 none_read
    exact ⟨fun p given => refreshInterval_of_provider none_own given,
      fun provider none_given => refreshInterval_of_neither none_own none_given⟩

/-- Seven days and ten thousand and eighty minutes are written alike, in hours; a text that is no
interval leaves the choice to the provider. -/
theorem sample_refresh_intervals_faithful :
    Interval.parse (DelegatedSync.refreshInterval (some "7d") none) = .ok ⟨604800⟩ ∧
    DelegatedSync.refreshInterval (some "7d") none =
      DelegatedSync.refreshInterval (some " 10080m") (some "2h") ∧
    DelegatedSync.refreshInterval (some "weekly") (some "2h") = "2h" := by
  have days : Interval.parse "7d" = .ok ⟨604800⟩ := by decide +kernel
  have minutes : Interval.parse " 10080m" = .ok ⟨604800⟩ := by decide +kernel
  have none_read : ∀ g, some "weekly" = some g → ∀ i, Interval.parse g ≠ .ok i := by
    rintro _ ⟨⟩ i read
    have refused : Interval.parse "weekly" = .error (.missingNumber "weekly") := by decide +kernel
    cases refused.symm.trans read
  obtain ⟨given, none_given⟩ := refresh_intervals_faithful
  obtain ⟨reread, -, -, alike⟩ := given "7d" _ days none
  exact ⟨reread, (alike " 10080m" _ minutes (some "2h")).2 rfl,
    (none_given (some "weekly") none_read).1 "2h" (by decide)⟩

end CredentialOperator
