import ResumableUpload.Number.Numeral

/-!
# Binary floating-point numbers

A number of the 64-bit binary interchange format is not a number, an infinity, or a sign with
`significand * 2 ^ exponent`, where the significand has at most 53 bits and the exponent lies
between -1074 and 971. Everything here is exact arithmetic on integers.

## Main definitions

* `Binary64` — the numbers of the format.
* `Binary64.ofRatio` — the number nearest to a quotient, a tie going to the even significand.
* `Binary64.ofNumeral` — the number that a decimal numeral stands for.
* `Binary64.toInt?` — the integer a finite number is equal to, if it is whole.
-/

namespace ResumableUpload

/-- A number of the 64-bit binary interchange format. -/
inductive Binary64 where
  /-- Not a number. -/
  | nan
  /-- An infinity. -/
  | infinite (negative : Bool)
  /-- A finite number, `± significand * 2 ^ exponent`; zeros keep their sign. -/
  | finite (negative : Bool) (significand : Nat) (exponent : Int)
deriving DecidableEq, Repr, Inhabited

/-- The quotient rounded to an integer, a tie going to the even neighbour. -/
def roundDiv (num den : Nat) : Nat :=
  let q := num / den
  let r := num % den
  if 2 * r < den then q
  else if den < 2 * r then q + 1
  else if q % 2 = 0 then q else q + 1

namespace Binary64

/-- The least exponent. -/
def minExponent : Int := -1074

/-- The greatest exponent of a finite number. -/
def maxExponent : Int := 971

/-- The exponent of the leading binary digit of `num / den`, for positive arguments. -/
def leadingExponent (num den : Nat) : Int :=
  let estimate : Int := (num.log2 : Int) - (den.log2 : Int)
  if den * twoTo estimate ≤ num * twoTo (-estimate) then estimate else estimate - 1

/-- The number nearest to `± num / den`. -/
def ofRatio (negative : Bool) (num den : Nat) : Binary64 :=
  if num = 0 then .finite negative 0 minExponent
  else
    let exponent := max (leadingExponent num den - 52) minExponent
    let significand := roundDiv (num * twoTo (-exponent)) (den * twoTo exponent)
    let (significand, exponent) :=
      if significand = twoTo 53 then (twoTo 52, exponent + 1) else (significand, exponent)
    if maxExponent < exponent then .infinite negative
    else .finite negative significand exponent

/-- The number nearest to `± digits * 10 ^ scale`. Scales far outside the format's range are
decided without computing the power. -/
def ofDecimal (negative : Bool) (digits : Nat) (scale : Int) : Binary64 :=
  if digits = 0 ∨ scale + (digits.log2 : Int) + 1 < -330 then .finite negative 0 minExponent
  else if 310 < scale then .infinite negative
  else ofRatio negative (digits * tenTo scale) (tenTo (-scale))

/-- The number nearest to what a numeral writes. -/
def ofNumeral (n : Numeral) : Binary64 := ofDecimal n.negative n.digits n.scale

/-- The integer that a finite whole number is equal to. -/
def toInt? : Binary64 → Option Int
  | nan => none
  | infinite _ => none
  | finite negative significand exponent =>
    let den := twoTo (-exponent)
    let magnitude := significand * twoTo exponent
    if magnitude % den = 0 then
      some (if negative then -((magnitude / den : Nat) : Int) else (magnitude / den : Nat))
    else none

/-- Whether the number is finite. -/
def isFinite : Binary64 → Bool
  | finite .. => true
  | _ => false

end Binary64

end ResumableUpload
