import ResumableUpload.ByteQuantity

/-!
# How byte quantities are written

Without the blanks around it and in lower case, the text of a quantity has three parts: a row of
decimal digits of any script, blanks, which may be missing, and a unit. The digits are as many as
may be read.

## Main definitions

* `ByteQuantity.units` — the units.
* `ByteQuantity.plain`, `ByteQuantity.Shaped` — a text in its plain form, and the parts of it.
* `ByteQuantity.Denotes` — the number of bytes that a text stands for.
* `ByteQuantity.Refused` — what is wrong with any other text.
-/

namespace ResumableUpload.ByteQuantity

/-- The units, each with the bytes in it. Without a unit, single bytes are counted. -/
def units : List (String × Nat) :=
  [("", 1), ("b", 1), ("k", 1024), ("kb", 1024), ("m", 1024 * 1024), ("mb", 1024 * 1024),
   ("g", 1024 * 1024 * 1024), ("gb", 1024 * 1024 * 1024)]

/-- A text without the blanks around it, in lower case. -/
def plain (s : String) : List Char := (Text.trimBy Text.isBlank s.toList).map lowerCase

/-- The parts of a text: digits, of which there is at least one, blanks and letters. -/
structure Shaped (cs digits gap letters : List Char) : Prop where
  /-- The parts make up the text. -/
  eq : cs = digits ++ (gap ++ letters)
  /-- There is a digit. -/
  digits_ne : digits ≠ []
  /-- The first part consists of decimal digits. -/
  digits : ∀ c ∈ digits, Text.isDecimalDigit c = true
  /-- The second part consists of blanks. -/
  gap : ∀ c ∈ gap, Text.isBlank c = true
  /-- The third part consists of letters. -/
  letters : ∀ c ∈ letters, isUnitLetter c = true

/-- The text stands for so many bytes: it has the parts of a quantity, and not too many digits. -/
def Denotes (s : String) (count : Int) : Prop :=
  ∃ digits gap letters size, Shaped (plain s) digits gap letters ∧
    (String.ofList letters, size) ∈ units ∧ digits.length ≤ maxDigits ∧
    count = (Text.digitsValue digits * size : Nat)

/-- What is wrong with a text that stands for no number of bytes. -/
inductive Refused (s : String) : Fault → Prop
  /-- It does not have the parts of a quantity. -/
  | malformed (shapeless : ¬∃ digits gap letters, Shaped (plain s) digits gap letters) :
    Refused s (.malformed (Text.quote s))
  /-- The letters are not a unit. -/
  | unknownUnit {digits gap letters : List Char} (shaped : Shaped (plain s) digits gap letters)
    (unknown : ∀ size, (String.ofList letters, size) ∉ units) :
    Refused s (.unknownUnit (Text.quote s))
  /-- There are more digits than may be read. -/
  | tooLong {digits gap letters : List Char} {size : Nat}
    (shaped : Shaped (plain s) digits gap letters) (unit : (String.ofList letters, size) ∈ units)
    (long : maxDigits < digits.length) : Refused s (.tooLong digits.length)

end ResumableUpload.ByteQuantity
