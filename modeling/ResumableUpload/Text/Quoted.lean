import ResumableUpload.Text.Hexadecimal
import ResumableUpload.Text.Printable

/-!
# Quoted texts

Messages show a text or a byte string between quotation marks, so that its ends and its odd
characters can be seen. The mark is the apostrophe, unless the text holds apostrophes and no double
quotes: then it is the double quote. Inside the marks

* the mark and the backslash stand behind a backslash;
* newline, carriage return and tab are written with their letters;
* any other character without a graphic form is written by its number in two, four or eight
  hexadecimal digits, after `x`, `u` or `U`.

## Main definitions

* `quote` — the quoted form of a text.
* `quoteBytes` — the quoted form of a byte string, which begins with `b`.
-/

namespace ResumableUpload.Text

/-- The apostrophe. -/
def apostrophe : Char := Char.ofNat 39

/-- The double quote. -/
def doubleQuote : Char := Char.ofNat 34

/-- The backslash. -/
def backslash : Char := Char.ofNat 92

/-! ### Texts -/

/-- The mark around a text: an apostrophe unless only that one occurs in the text. -/
def quoteMark (cs : List Char) : Char :=
  if cs.contains apostrophe && !cs.contains doubleQuote then doubleQuote else apostrophe

/-- A character by its number. -/
def escapeNumber (c : Char) : List Char :=
  if c.toNat < 0x100 then backslash :: 'x' :: hexDigits 2 c.toNat
  else if c.toNat < 0x10000 then backslash :: 'u' :: hexDigits 4 c.toNat
  else backslash :: 'U' :: hexDigits 8 c.toNat

/-- A character as it stands between the given marks. -/
def escapeChar (mark c : Char) : List Char :=
  if c = mark ∨ c = backslash then [backslash, c]
  else if c = '\n' then [backslash, 'n']
  else if c = '\r' then [backslash, 'r']
  else if c = '\t' then [backslash, 't']
  else if isPrintable c then [c]
  else escapeNumber c

/-- The quoted form of a row of characters. -/
def quoteChars (cs : List Char) : List Char :=
  let mark := quoteMark cs
  mark :: (cs.flatMap (escapeChar mark) ++ [mark])

/-- The quoted form of a text. -/
def quote (s : String) : String := String.ofList (quoteChars s.toList)

/-! ### Byte strings -/

/-- A byte as it stands between the given marks: ASCII as in a text, all else by number. -/
def escapeByte (mark : Char) (b : UInt8) : List Char :=
  if b < 0x80 then escapeChar mark (Char.ofNat b.toNat)
  else backslash :: 'x' :: hexDigits 2 b.toNat

/-- The quoted form of a byte string. -/
def quoteBytes (bytes : ByteArray) : String :=
  let ascii := bytes.toList.map fun b => if b < 0x80 then Char.ofNat b.toNat else 'x'
  let mark := quoteMark ascii
  String.ofList ('b' :: mark :: (bytes.toList.flatMap (escapeByte mark) ++ [mark]))

end ResumableUpload.Text
