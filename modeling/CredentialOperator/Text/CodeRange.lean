/-! # Ranges of code points

Character properties are given as ascending lists of inclusive ranges of code points.
-/

namespace CredentialOperator.Text

/-- Whether a code point lies in one of the given inclusive ranges. -/
def inRanges (ranges : List (Nat × Nat)) (n : Nat) : Bool :=
  ranges.any fun r => r.1 ≤ n && n ≤ r.2

end CredentialOperator.Text
