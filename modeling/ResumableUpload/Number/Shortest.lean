import ResumableUpload.Number.Binary64

/-!
# Shortest decimal texts

A finite number is written with the fewest decimal digits that still read back as the same number,
and of those the digits nearest to it. The point is placed positionally when the exponent of the
leading digit is between -4 and 15; otherwise the digits are followed by a signed power of ten of at
least two digits. A whole number keeps `.0`.

## Main definitions

* `Decimal` — digits with a power of ten.
* `Decimal.readsBack` — whether a decimal lies in the interval that rounds to the number.
* `Decimal.shortest` — the selected decimal.
* `Binary64.toText` — the text of a number.
-/

namespace ResumableUpload

/-- The decimal `digits * 10 ^ scale`. -/
structure Decimal where
  /-- The digits, read as one integer. -/
  digits : Nat
  /-- The power of ten. -/
  scale : Int
deriving DecidableEq, Repr

namespace Decimal

/-- The order of `a * 10 ^ i` and `n * 2 ^ j`, decided exactly. -/
def compareBinary (a : Nat) (i : Int) (n : Nat) (j : Int) : Ordering :=
  compare (a * tenTo i * twoTo (-j)) (n * twoTo j * tenTo (-i))

/-- Whether the decimal lies among the reals that round to `significand * 2 ^ exponent`: from
halfway to the neighbour below to halfway to the neighbour above, the ends included when the
significand is even. Below a power of two the gap is half as wide. -/
def readsBack (significand : Nat) (exponent : Int) (d : Decimal) : Bool :=
  let narrow := significand = twoTo 52 ∧ Binary64.minExponent < exponent
  let low := if narrow then 4 * significand - 1 else 4 * significand - 2
  let high := 4 * significand + 2
  let closed := significand % 2 = 0
  let fromLow := compareBinary d.digits d.scale low (exponent - 2)
  let fromHigh := compareBinary d.digits d.scale high (exponent - 2)
  (fromLow = .gt ∨ (closed ∧ fromLow = .eq)) ∧ (fromHigh = .lt ∨ (closed ∧ fromHigh = .eq))

/-- The least power of ten above `significand * 2 ^ exponent`, for a positive significand. -/
def ceilingPower (significand : Nat) (exponent : Int) : Int :=
  let estimate : Int := ((significand.log2 : Int) + exponent) * 30103 / 100000
  let candidates : List Int := [estimate - 1, estimate, estimate + 1]
  (candidates.find? fun k => compareBinary 1 k significand exponent = .gt).getD (estimate + 2)

/-- The decimals with last digit at `10 ^ scale` on both sides of the number that read back, the
nearer one chosen. -/
def nearestOnGrid? (significand : Nat) (exponent scale : Int) (m : Nat) : Option Decimal :=
  let below : Decimal := ⟨m, scale⟩
  let above : Decimal := ⟨m + 1, scale⟩
  match readsBack significand exponent below, readsBack significand exponent above with
  | false, false => none
  | true, false => some below
  | false, true => some above
  | true, true =>
    match compareBinary (2 * m + 1) scale (2 * significand) exponent with
    | .lt => some above
    | .gt => some below
    | .eq => some (if m % 2 = 0 then below else above)

/-- The integer part of `significand * 2 ^ exponent / 10 ^ scale`. -/
def gridFloor (significand : Nat) (exponent scale : Int) : Nat :=
  (significand * twoTo exponent * tenTo (-scale)) / (twoTo (-exponent) * tenTo scale)

/-- The decimal with the fewest digits that reads back as a positive finite number. -/
def shortest (significand : Nat) (exponent : Int) : Decimal :=
  let top := ceilingPower significand exponent
  let grids : List Int := (List.range 17).map fun n : Nat => top - ((n : Int) + 1)
  (grids.findSome? fun scale =>
    nearestOnGrid? significand exponent scale (gridFloor significand exponent scale)).getD
    ⟨gridFloor significand exponent (top - 17), top - 17⟩

/-- A decimal without trailing zeros among its digits. -/
def stripZeros (d : Decimal) : Decimal :=
  if d.digits ≠ 0 ∧ d.digits % 10 = 0 then stripZeros ⟨d.digits / 10, d.scale + 1⟩ else d
termination_by d.digits
decreasing_by omega

end Decimal

namespace Binary64

/-- The exponents of the leading digit for which the point is placed among the digits. -/
def isPositional (leading : Int) : Bool := -4 ≤ leading && leading < 16

/-- The written power of ten: a sign and at least two digits. -/
def powerText (leading : Int) : String :=
  let digits := toString leading.natAbs
  let padded := if digits.length < 2 then "0" ++ digits else digits
  (if leading < 0 then "e-" else "e+") ++ padded

/-- A row of digits written with its point after the first `top` places. -/
def layout (digits : List Char) (top : Int) : String :=
  let count : Int := digits.length
  if isPositional (top - 1) then
    if top ≤ 0 then "0." ++ String.ofList (List.replicate (-top).toNat '0' ++ digits)
    else if count ≤ top then
      String.ofList (digits ++ List.replicate (top - count).toNat '0') ++ ".0"
    else String.ofList (digits.take top.toNat) ++ "." ++ String.ofList (digits.drop top.toNat)
  else
    let mantissa := match digits with
      | [] => ""
      | [d] => String.ofList [d]
      | d :: ds => String.ofList (d :: '.' :: ds)
    mantissa ++ powerText (top - 1)

/-- The text of a number. -/
def toText : Binary64 → String
  | nan => "nan"
  | infinite negative => if negative then "-inf" else "inf"
  | finite negative significand exponent =>
    let sign := if negative then "-" else ""
    if significand = 0 then sign ++ "0.0"
    else
      let d := Decimal.stripZeros (Decimal.shortest significand exponent)
      let digits := (toString d.digits).toList
      sign ++ layout digits (d.scale + digits.length)

end Binary64

end ResumableUpload
