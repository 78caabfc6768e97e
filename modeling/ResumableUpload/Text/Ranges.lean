/-!
# Sets of code points as ranges

A Unicode property is carried as an ascending list of closed ranges of code points.

## Main definitions

* `inRanges` — membership, which stops at the first range above the code point.
-/

namespace ResumableUpload.Text

/-- Whether `n` lies in one of the closed ranges, which are ascending and apart. -/
def inRanges : List (Nat × Nat) → Nat → Bool
  | [], _ => false
  | (lo, hi) :: rest, n => if n < lo then false else if n ≤ hi then true else inRanges rest n

end ResumableUpload.Text
