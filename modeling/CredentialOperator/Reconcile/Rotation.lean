import CredentialOperator.Grant.Basic
import CredentialOperator.Provider.Basic
import CredentialOperator.Reconcile.Pass

/-! # Rotation

The schedule by which credentials are rotated.  A grant's own interval wins over that of its
provider.  The date of the last rotation moves only when a rotation is due, so that the dates
form a regular sequence, and a pass comes back in time for the next one.
-/

namespace CredentialOperator

/-- The interval between the rotations of a grant, if there is one. -/
def rotationInterval? (grant : GrantSpec) (provider : ProviderSpec) : Option Interval :=
  (Interval.parse? grant.rotationInterval?).or (Interval.parse? provider.rotationInterval?)

/-- What a pass decides about rotation. -/
structure Rotation where
  /-- Whether a rotation was due. -/
  due : Bool
  /-- When the artifact was last made or rotated. -/
  last : Timestamp
  /-- When the next rotation is due. -/
  next : Option Timestamp
deriving DecidableEq

namespace Rotation

/-- The longest wait between passes while a rotation is pending. -/
def longestWait : Delay := .ofSeconds (24 * 60 * 60)

/-- The date of the rotation after another, if there are rotations and the date exists. -/
def nextAfter (last : Timestamp) (interval : Option Interval) : Option Timestamp :=
  interval.bind fun i => last.addSeconds? i.seconds

/-- Whether a rotation is due. -/
def isDue (now : Timestamp) (status : GrantStatus) : Bool :=
  match status.nextRotation with
  | some next => next ≤ now
  | none => false

/-- The date of the last rotation: it moves when there was none yet or one is due. -/
def lastAt (now : Timestamp) (status : GrantStatus) : Timestamp :=
  match status.lastRotation with
  | some last => if isDue now status then now else last
  | none => now

/-- What a pass decides about rotation, given the status of the last one. -/
def plan (now : Timestamp) (status : GrantStatus) (interval : Option Interval) : Rotation where
  due := isDue now status
  last := lastAt now status
  next := nextAfter (lastAt now status) interval

/-- The time left until an instant; none is left when it has gone by. -/
def remaining (now next : Timestamp) : Delay := ⟨(next.since now).toNat⟩

/-- When to come back: in time for the next rotation, but not later than after one interval or
the longest wait. -/
def wake (now : Timestamp) (interval : Option Interval) (next : Option Timestamp) : Action :=
  match interval, next with
  | some i, some next => .requeue (((remaining now next).min i.toDelay).min longestWait)
  | _, _ => .awaitChange

/-- The milliseconds from one instant to another, without the fraction. -/
def millisBetween (earlier later : Timestamp) : Int := (later.since earlier).tdiv 1000000

end Rotation

end CredentialOperator
