import ResumableUpload.Text.Blank
import ResumableUpload.Text.DecimalDigit
import ResumableUpload.Value

/-!
# Byte quantities

A quantity of bytes is written as a row of decimal digits and a unit, such as `256 kb`. Blanks may
stand around it and between its two parts; the unit is read without regard to case and may be left
out.

## Main definitions

* `ByteQuantity.unitSize?` — the bytes in one unit.
* `ByteQuantity.parseText` — the number of bytes that a text stands for.
* `ByteQuantity.parse` — the same for a value; a number stands for itself.
* `ByteQuantity.Fault` — why a value is no quantity, with its `message`.
-/

namespace ResumableUpload.ByteQuantity

/-- Why a value is not a quantity of bytes. -/
inductive Fault where
  /-- It is not digits followed by letters. -/
  | malformed (shown : String)
  /-- The letters are not a unit. -/
  | unknownUnit (shown : String)
  /-- There are more digits than may be read. -/
  | tooLong (digits : Nat)
  /-- It is no text, and an integer in it has more digits than may be written. -/
  | unwritable
deriving DecidableEq, Repr

/-- What is said about the fault. -/
def Fault.message : Fault → String
  | .malformed shown => s!"Invalid byte value: {shown}"
  | .unknownUnit shown => s!"Unknown byte unit in value: {shown}"
  | .tooLong digits => readLimit digits
  | .unwritable => writtenLimit

/-- The bytes in one unit, as in `_BYTE_UNITS`; no unit at all counts single bytes. -/
def unitSize? (unit : List Char) : Option Nat :=
  match unit with
  | [] => some 1
  | ['b'] => some 1
  | ['k'] => some 1024
  | ['k', 'b'] => some 1024
  | ['m'] => some 1048576
  | ['m', 'b'] => some 1048576
  | ['g'] => some 1073741824
  | ['g', 'b'] => some 1073741824
  | _ => none

/-- Lower case of the characters that can become a letter of a unit: the ASCII capitals and the
kelvin sign U+212A. -/
def lowerCase (c : Char) : Char :=
  if c.toNat = 0x212A then 'k' else Text.asciiLower c

/-- Whether a character can stand in a unit. -/
def isUnitLetter (c : Char) : Bool := 97 ≤ c.toNat && c.toNat ≤ 122

/-- The number of bytes that a row of characters stands for. The faults show `shown`. -/
def parseChars (shown : String) (cs : List Char) : Except Fault Nat :=
  let cs := (Text.trimBy Text.isBlank cs).map lowerCase
  let digits := cs.takeWhile Text.isDecimalDigit
  let unit := (cs.dropWhile Text.isDecimalDigit).dropWhile Text.isBlank
  if digits.isEmpty || !unit.all isUnitLetter then .error (.malformed shown)
  else match unitSize? unit with
    | none => .error (.unknownUnit shown)
    | some size =>
      if maxDigits < digits.length then .error (.tooLong digits.length)
      else .ok (Text.digitsValue digits * size)

/-- The number of bytes that a text stands for. -/
def parseText (s : String) : Except Fault Nat := parseChars (Text.quote s) s.toList

/-- The quantity that a value stands for: `parse_bytes`. Integers and truth values stand for
themselves; anything else is read by its plain text. -/
def parse : Value → Except Fault Value
  | .int n => .ok (.int n)
  | .bool b => .ok (.bool b)
  | v =>
    if v.isWritable then (parseChars v.literal v.display.toList).map fun n : Nat => .int n
    else .error .unwritable

/-- A text is read as `parseText` reads it. -/
theorem parse_text (s : String) : parse (.text s) = (parseText s).map fun n : Nat => .int n := by
  simp [parse, parseText, Value.literal, Value.display, Value.isWritable]

end ResumableUpload.ByteQuantity
