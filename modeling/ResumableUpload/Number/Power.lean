/-!
# Powers of two and ten

A scaled integer is multiplied by a power when its exponent is positive and divided by one when it
is negative. Both cases read well with powers that are 1 for every exponent below zero.

## Main definitions

* `twoTo`, `tenTo` — the powers.
-/

namespace ResumableUpload

/-- Two to a power; 1 for a negative exponent. -/
def twoTo (e : Int) : Nat := Nat.pow 2 e.toNat

/-- Ten to a power; 1 for a negative exponent. -/
def tenTo (e : Int) : Nat := Nat.pow 10 e.toNat

/-- A power of ten is positive. -/
theorem tenTo_pos (e : Int) : 0 < tenTo e := Nat.pow_pos (by decide)

end ResumableUpload
