import ResumableUpload.Number.Power
import ResumableUpload.Text.Ascii

/-!
# Decimal numerals

The numeral of a data format is an optional minus sign, a whole part without superfluous leading
zeros, an optional fraction and an optional power of ten. Numbers of more than `maxDigits` digits
are neither read from text nor written as text.

## Main definitions

* `Numeral` — the parts of a numeral, and its reader `Numeral.ofChars?`.
* `Numeral.isWhole` — whether the numeral writes an integer: it has no fraction and no power.
* `Numeral.isOverlong` — whether a text begins with an integer that is too long.
* `maxDigits`, `writtenLimit`, `readLimit` — the bound on digits and what is said beyond it.
* `showing` — a message that shows an integer.
-/

namespace ResumableUpload

/-- The most digits an integer may have to be read from text or written as text. -/
def maxDigits : Nat := 4300

/-- Whether an integer has more than `maxDigits` digits. -/
def tooManyDigits (n : Int) : Bool := tenTo maxDigits ≤ n.natAbs

/-- What is said when an integer has too many digits to be written. -/
def writtenLimit : String :=
  s!"Exceeds the limit ({maxDigits} digits) for integer string conversion; " ++
    "use sys.set_int_max_str_digits() to increase the limit"

/-- A message that shows an integer. If it has too many digits, that is what is said instead. -/
def showing (n : Int) (message : String) : String :=
  if tooManyDigits n then writtenLimit else message

/-- What is said when a row of `digits` digits is too long to be read as an integer. -/
def readLimit (digits : Nat) : String :=
  s!"Exceeds the limit ({maxDigits} digits) for integer string conversion: " ++
    s!"value has {digits} digits; " ++
    "use sys.set_int_max_str_digits() to increase the limit"

/-- The parts of a decimal numeral. -/
structure Numeral where
  /-- Whether a minus sign stands in front. -/
  negative : Bool
  /-- The digits before the point. -/
  whole : List Char
  /-- The digits after the point, if there is a point. -/
  fraction : Option (List Char)
  /-- The power of ten, if one is written. -/
  power : Option Int

namespace Numeral

/-- Whether the numeral writes an integer. -/
def isWhole (n : Numeral) : Bool := n.fraction.isNone && n.power.isNone

/-- The integer that a whole numeral writes. -/
def toInt (n : Numeral) : Int :=
  let magnitude : Int := Text.asciiValue n.whole
  if n.negative then -magnitude else magnitude

/-- All digits of the numeral read as one integer. -/
def digits (n : Numeral) : Nat := Text.asciiValue (n.whole ++ n.fraction.getD [])

/-- The power of ten that belongs to `digits`. -/
def scale (n : Numeral) : Int := n.power.getD 0 - (n.fraction.getD []).length

/-- A power of ten: an optional sign and at least one digit. -/
def readPower? (cs : List Char) : Option Int :=
  let (negative, ds) := match cs with
    | '-' :: ds => (true, ds)
    | '+' :: ds => (false, ds)
    | ds => (false, ds)
  if ds.isEmpty || !ds.all Text.isAsciiDigit then none
  else some (if negative then -(Text.asciiValue ds : Int) else Text.asciiValue ds)

/-- What may follow the whole part: a fraction, a power of ten, both or neither. -/
def readTail? (negative : Bool) (whole : List Char) : List Char → Option Numeral
  | [] => some ⟨negative, whole, none, none⟩
  | c :: cs =>
    if c = '.' then
      let fraction := cs.takeWhile Text.isAsciiDigit
      if fraction.isEmpty then none
      else match cs.dropWhile Text.isAsciiDigit with
        | [] => some ⟨negative, whole, some fraction, none⟩
        | e :: power =>
          if e = 'e' ∨ e = 'E' then
            (readPower? power).map fun p => ⟨negative, whole, some fraction, some p⟩
          else none
    else if c = 'e' ∨ c = 'E' then (readPower? cs).map fun p => ⟨negative, whole, none, some p⟩
    else none

/-- Whether a minus sign stands in front, and what follows it. -/
def splitSign : List Char → Bool × List Char
  | '-' :: rest => (true, rest)
  | rest => (false, rest)

/-- The numeral written by the characters, if they write one and nothing else. -/
def ofChars? (cs : List Char) : Option Numeral :=
  let (negative, cs) := splitSign cs
  match cs.takeWhile Text.isAsciiDigit with
  | [] => none
  | d :: ds =>
    if d = '0' ∧ ds ≠ [] then none
    else readTail? negative (d :: ds) (cs.dropWhile Text.isAsciiDigit)

/-- Whether a text begins with an integer of more than `limit` digits. A zero in front stands alone
and begins no longer integer. -/
def isOverlong (limit : Nat) (cs : List Char) : Bool :=
  let digits := (splitSign cs).2.takeWhile Text.isAsciiDigit
  digits.head? ≠ some '0' && limit < digits.length

end Numeral

end ResumableUpload
