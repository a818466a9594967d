import CredentialOperator.Proofs.Reconcile.Schedule

/-!
# Waits for rotations

A pass that made an artifact asks to be followed by another in time for the next rotation, and at
the latest after an interval or a day.  The date that it waits for lies exactly one interval after
that of the last rotation; it is missing only if there is no interval or no such date.

The wait is nothing when the date has gone by, which it may have at once: whoever shortens the
interval of a grant moves the date of the next rotation, but not that of the last.  The pass that
follows then finds the rotation due and counts the interval from its own time.  Hence passes do not
follow one another without a wait (`SuccessfulPass.not_zero_twice`).
-/

namespace CredentialOperator

/-! ## Dates some seconds later -/

namespace Timestamp

variable {a b : Timestamp} {n : Nat}

/-- The instant falls into the years that have dates. -/
def HasDate (t : Timestamp) : Prop :=
  Calendar.minSecond ≤ t.seconds ∧ t.seconds ≤ Calendar.maxSecond

/-- `b` lies `n` seconds after `a`.  One who starts within a leap second comes to the same fraction
of an ordinary second. -/
structure Precedes (a b : Timestamp) (n : Nat) : Prop where
  seconds : b.seconds = a.seconds + n
  nanos : b.nanos = a.nanos % 1000000000

lemma Precedes.ordinary (h : a.Precedes b n) : b.Ordinary := by
  rw [Ordinary, h.nanos]
  exact Nat.mod_lt _ (by decide)

/-- Between ordinary instants it is a matter of numbers. -/
lemma Precedes.toNanos (h : a.Precedes b n) (ordinary : a.Ordinary) :
    b.toNanos = a.toNanos + n * 1000000000 := by
  have fraction : a.nanos % 1000000000 = a.nanos := Nat.mod_eq_of_lt ordinary
  rw [Timestamp.toNanos, Timestamp.toNanos, h.seconds, h.nanos, fraction]
  omega

/-- The time that passes is one second off at most, and that only if it starts within a leap
second. -/
lemma Precedes.since_ge (h : a.Precedes b n) : ((n : Int) - 1) * 1000000000 ≤ b.since a := by
  have bound := a.nanos_lt
  simp only [since, h.seconds, h.nanos]
  split <;> omega

lemma addSeconds?_eq_some_iff (hn : 0 < n) :
    a.addSeconds? n = some b ↔ a.Precedes b n ∧ b.HasDate := by
  have positive : ¬ ((n : Int) = 0) := by omega
  have forward : ¬ ((n : Int) < 0 ∧ 1000000000 ≤ a.nanos) := by omega
  simp only [addSeconds?, positive, forward, if_false]
  constructor
  · intro h
    split at h
    next dated =>
      obtain rfl := Option.some.inj h
      exact ⟨⟨rfl, rfl⟩, dated⟩
    next => cases h
  · rintro ⟨apart, dated⟩
    have dated : Calendar.minSecond ≤ a.seconds + n ∧ a.seconds + n ≤ Calendar.maxSecond := by
      rw [← apart.seconds]
      exact dated
    rw [if_pos dated]
    obtain ⟨seconds, nanos, small⟩ := b
    obtain ⟨rfl, rfl⟩ := apart
    rfl

lemma addSeconds?_eq_none_iff (hn : 0 < n) :
    a.addSeconds? n = none ↔
      ¬ (Calendar.minSecond ≤ a.seconds + n ∧ a.seconds + n ≤ Calendar.maxSecond) := by
  have positive : ¬ ((n : Int) = 0) := by omega
  have forward : ¬ ((n : Int) < 0 ∧ 1000000000 ≤ a.nanos) := by omega
  simp only [addSeconds?, positive, forward, if_false]
  split <;> simp_all

end Timestamp

/-! ## The wait -/

namespace Rotation

/-- The nanoseconds to wait for a rotation: those left until then, none if it has gone by, and not
more than an interval or a day. -/
def waitNanos (now next : Timestamp) (i : Interval) : Int :=
  min (min (max (next.since now) 0) i.nanos) (24 * 60 * 60 * 1000000000)

variable {now last next : Timestamp} {i : Interval} {interval : Option Interval}

lemma wake_some (now next : Timestamp) (i : Interval) :
    ∃ d, wake now (some i) (some next) = .requeue d ∧ (d.nanos : Int) = waitNanos now next i := by
  refine ⟨_, rfl, ?_⟩
  simp only [waitNanos, Interval.nanos, remaining, Delay.min, Interval.toDelay, Delay.ofSeconds,
    longestWait, Nat.min]
  omega

/-- Nothing is waited for only if the rotation is due. -/
lemma since_nonpos_of_waitNanos (hi : 0 < i.seconds) (h : waitNanos now next i = 0) :
    next.since now ≤ 0 := by
  have long := Interval.nanos_pos hi
  unfold waitNanos at h
  omega

lemma nextAfter_eq_some_iff (hi : 0 < i.seconds) :
    nextAfter last (some i) = some next ↔ last.Precedes next i.seconds ∧ next.HasDate :=
  Timestamp.addSeconds?_eq_some_iff hi

/-- The rotation an interval after now is waited for. -/
lemma wake_nextAfter_ne (minutes : ∀ i, interval = some i → 60 ≤ i.seconds) :
    wake now interval (nextAfter now interval) ≠ .requeue ⟨0⟩ := by
  cases interval with
  | none => simp [wake]
  | some i =>
    have long : 60 ≤ i.seconds := minutes i rfl
    have positive : 0 < i.seconds := by omega
    cases hn : nextAfter now (some i) with
    | none => simp [wake]
    | some next =>
      intro zero
      obtain ⟨d, asked, exact_wait⟩ := wake_some now next i
      obtain rfl : d = ⟨0⟩ := Action.requeue.inj (asked.symm.trans zero)
      have gone := since_nonpos_of_waitNanos positive exact_wait.symm
      have left := ((nextAfter_eq_some_iff positive).1 hn).1.since_ge
      omega

end Rotation

/-! ## Passes in a row -/

/-- What is recorded of the rotations of a grant with an interval, and what the pass that recorded
it asks for: the next rotation is due an interval after the last one, and the pass waits for it if
there is to be one, and for a change otherwise. -/
structure GrantStatus.Awaits (t : GrantStatus) (interval : Option Interval) (now : Timestamp)
    (a : Action) : Prop where
  regular : ∃ last, t.lastRotation = some last ∧
    t.nextRotation = Rotation.nextAfter last interval
  rests : a = .awaitChange ↔ t.nextRotation = none
  returns : ∀ next, t.nextRotation = some next → ∃ i d, interval = some i ∧ a = .requeue d ∧
    (d.nanos : Int) = Rotation.waitNanos now next i

lemma GrantStatus.awaits_wake {t : GrantStatus} {interval : Option Interval}
    {now last : Timestamp} (hl : t.lastRotation = some last)
    (hn : t.nextRotation = Rotation.nextAfter last interval) :
    t.Awaits interval now (Rotation.wake now interval t.nextRotation) where
  regular := ⟨last, hl, hn⟩
  rests := by
    cases interval with
    | none => simp [hn, Rotation.nextAfter, Rotation.wake]
    | some i => cases t.nextRotation <;> simp [Rotation.wake]
  returns next := by
    intro scheduled
    cases interval with
    | none =>
      rw [scheduled] at hn
      cases hn
    | some i =>
      obtain ⟨d, asked, wait⟩ := Rotation.wake_some now next i
      exact ⟨i, d, rfl, scheduled ▸ asked, wait⟩

/-- Intervals last for minutes. -/
lemma rotationInterval?_minutes {g : GrantSpec} {p : ProviderSpec} {i : Interval}
    (h : rotationInterval? g p = some i) : 60 ≤ i.seconds := by
  have read : ∀ {text : Option String}, Interval.parse? text = some i → 60 ≤ i.seconds := by
    intro text h
    obtain ⟨s, -, h⟩ := Interval.parse?_eq_some.1 h
    obtain ⟨positive, minutes, -⟩ := (Interval.parse_eq_ok.1 h).seconds
    exact Nat.le_of_dvd positive minutes
  rcases Option.or_eq_some_iff.1 h with h | ⟨-, h⟩
  · exact read h
  · exact read h

namespace SuccessfulPass

variable {g g' : Grant} {p p' : Provider} {now now' : Timestamp} {before : Option GrantStatus}
  {ds ds' : List Deed} {a a' : Action}

lemma awaits (h : SuccessfulPass g p now before ds a) :
    ∃ t, statusAfter before ds = some t ∧
      t.Awaits (rotationInterval? g.spec p.spec) now a := by
  obtain ⟨ns, hns⟩ := h.home
  obtain ⟨rfl, -, ⟨t, stored, -, last, next⟩, -⟩ := h.recorded hns
  refine ⟨t, stored, ?_⟩
  rw [← next]
  exact GrantStatus.awaits_wake last next

/-- A pass that comes upon a rotation that is due counts the interval from its own time. -/
lemma awaits_of_due {t : GrantStatus} {next : Timestamp}
    (h : SuccessfulPass g p now (some t) ds a) (recorded : t.nextRotation = some next)
    (due : next ≤ now) :
    a = Rotation.wake now (rotationInterval? g.spec p.spec)
      (Rotation.nextAfter now (rotationInterval? g.spec p.spec)) := by
  obtain ⟨ns, hns⟩ := h.home
  have moved : Rotation.lastAt now t = now := by
    unfold Rotation.lastAt
    cases t.lastRotation <;> simp [Rotation.isDue, recorded, due]
  have asked := (h.recorded hns).1
  simpa [plan, Rotation.plan, moved] using asked

/-- Of two passes in a row one waits, if the first looks at a clock. -/
lemma not_zero_twice (clock : now.Ordinary) (later : now ≤ now')
    (first : SuccessfulPass g p now before ds a)
    (second : SuccessfulPass g' p' now' (statusAfter before ds) ds' a') :
    ¬ (a = .requeue ⟨0⟩ ∧ a' = .requeue ⟨0⟩) := by
  rintro ⟨rfl, zero'⟩
  obtain ⟨t, stored, ⟨last, -, next_eq⟩, rests, returns⟩ := first.awaits
  cases hn : t.nextRotation with
  | none => cases rests.2 hn
  | some next =>
    obtain ⟨i, d, hi, same, wait⟩ := returns next hn
    obtain rfl := Action.requeue.inj same
    have positive := rotationInterval?_pos hi
    rw [hi, hn] at next_eq
    -- the first wait is nothing since the next rotation is due, and it is so for the second pass
    have ordinary := ((Rotation.nextAfter_eq_some_iff positive).1 next_eq.symm).1.ordinary
    have gone := Rotation.since_nonpos_of_waitNanos positive wait.symm
    rw [Timestamp.since_eq ordinary clock] at gone
    have due : next ≤ now := (Timestamp.le_iff_toNanos ordinary clock).2 (by omega)
    rw [stored] at second
    rw [second.awaits_of_due hn (Timestamp.le_trans due later)] at zero'
    exact Rotation.wake_nextAfter_ne (fun i => rotationInterval?_minutes) zero'

end SuccessfulPass

/-- Waits for rotations neither come to nothing again and again nor last too long.

* The rotation after another is due exactly one interval later, whatever interval was read and
  whichever instant it is counted from; there is none only if there is no interval or if that instant
  is outside the years that have dates.
* A pass that succeeds, over any status and at any time, records such a date, and waits for what is
  left of the time until then, or not at all if none is left, but no longer than an interval or a
  day.  It waits for a change if and only if no rotation is to come.
* When a pass at an instant that a clock can show asks not to wait, the next pass that succeeds over
  the status that it left, at the same time or later, does not ask so again.  The grant and the
  provider may ask for another interval by then.  (No clock that counts the seconds since 1970 shows
  a leap second, from within which the difference to a later instant can be negative.) -/
theorem waits_for_rotations :
    (∀ text i, Interval.parse text = .ok i → ∀ last,
      (∀ next, Rotation.nextAfter last (some i) = some next ↔
        last.Precedes next i.seconds ∧ next.HasDate) ∧
      (∀ next, Rotation.nextAfter last (some i) = some next → last.Ordinary →
        next.toNanos = last.toNanos + i.nanos) ∧
      (Rotation.nextAfter last (some i) = none ↔
        ¬ (Calendar.minSecond ≤ last.seconds + i.seconds ∧
          last.seconds + i.seconds ≤ Calendar.maxSecond)) ∧
      ∀ now next, ∃ d, Rotation.wake now (some i) (some next) = .requeue d ∧
        (d.nanos : Int) = Rotation.waitNanos now next i) ∧
    (∀ last, Rotation.nextAfter last none = none) ∧
    ∀ (g : Grant) (p : Provider) (now : Timestamp) (before : Option GrantStatus)
      (ds : List Deed) (a : Action), SuccessfulPass g p now before ds a →
      (∃ t, statusAfter before ds = some t ∧ t.Awaits (rotationInterval? g.spec p.spec) now a) ∧
      (now.Ordinary → ∀ (g' : Grant) (p' : Provider) (now' : Timestamp) (ds' : List Deed)
        (a' : Action), now ≤ now' →
        SuccessfulPass g' p' now' (statusAfter before ds) ds' a' →
        ¬ (a = .requeue ⟨0⟩ ∧ a' = .requeue ⟨0⟩)) := by
  refine ⟨?_, fun _ => rfl, ?_⟩
  · intro text i read last
    have positive := (Interval.parse_eq_ok.1 read).seconds.1
    refine ⟨fun next => Rotation.nextAfter_eq_some_iff positive, ?_,
      Timestamp.addSeconds?_eq_none_iff positive, fun now next => Rotation.wake_some now next i⟩
    intro next planned ordinary
    exact ((Rotation.nextAfter_eq_some_iff positive).1 planned).1.toNanos ordinary
  · intro g p now before ds a first
    refine ⟨first.awaits, ?_⟩
    intro clock g' p' now' ds' a' later second
    exact first.not_zero_twice clock later second

namespace Sample

/-- Ten hours after the beginning of 1970. -/
def morning : Timestamp := { Timestamp.epoch with seconds := 36000 }

/-- What was recorded while the artifact was to be rotated every day. -/
def daily : GrantStatus where
  lastRotation := some .epoch
  nextRotation := some { Timestamp.epoch with seconds := 86400 }

end Sample

/-- The interval of the small grant was shortened from a day to an hour, ten hours after the last
rotation: the first pass does not ask to wait, and the second one, at the same time, does. -/
theorem sample_waits_for_rotations :
    Interval.parse "1h" = .ok ⟨3600⟩ ∧
      Rotation.nextAfter .epoch (some ⟨3600⟩) = some Sample.hour ∧
      ∃ ds a ds' a',
        SuccessfulPass Sample.rotating Sample.provider Sample.morning (some Sample.daily) ds a ∧
        SuccessfulPass Sample.rotating Sample.provider Sample.morning
          (statusAfter (some Sample.daily) ds) ds' a' ∧
        a = .requeue ⟨0⟩ ∧ a' ≠ .requeue ⟨0⟩ := by
  obtain ⟨dates, -, passes⟩ := waits_for_rotations
  have read : Interval.parse "1h" = .ok ⟨3600⟩ := by decide
  have planned := (dates "1h" ⟨3600⟩ read .epoch).1 Sample.hour
  refine ⟨read, planned.2 ⟨⟨by decide, by decide⟩, by decide, by decide⟩, ?_⟩
  obtain ⟨ds, a, first⟩ := SuccessfulPass.possible rfl Sample.cleared_rotating Sample.holdsKey
    Sample.morning (some Sample.daily)
  obtain ⟨ds', a', second⟩ := SuccessfulPass.possible rfl Sample.cleared_rotating Sample.holdsKey
    Sample.morning (statusAfter (some Sample.daily) ds)
  have zero : a = .requeue ⟨0⟩ := by
    rw [(first.recorded rfl).1, SuccessfulPass.plan, Sample.interval_rotating]
    decide
  have waits := (passes _ _ _ _ ds a first).2 (by decide) _ _ _ ds' a'
    (Timestamp.le_refl _) second
  exact ⟨ds, a, ds', a', first, second, zero, fun zero' => waits ⟨zero, zero'⟩⟩

end CredentialOperator
