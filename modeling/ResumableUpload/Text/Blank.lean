import ResumableUpload.Text.Ranges

/-!
# Blank characters

Two sets of characters separate words without showing themselves. The Unicode property White_Space
has 25 members; the **blanks** that may surround a quantity written by a person are those and the
four information separators U+001C to U+001F.

## Main definitions

* `isWhiteSpace` — the Unicode property White_Space.
* `isBlank` — white space or an information separator.
* `trimBy` — a text without the leading and trailing characters of a set.
-/

namespace ResumableUpload.Text

/-- The Unicode property White_Space. -/
def whiteSpaceRanges : List (Nat × Nat) :=
  [(0x09, 0x0D), (0x20, 0x20), (0x85, 0x85), (0xA0, 0xA0), (0x1680, 0x1680), (0x2000, 0x200A),
   (0x2028, 0x2029), (0x202F, 0x202F), (0x205F, 0x205F), (0x3000, 0x3000)]

/-- Whether a character has the Unicode property White_Space. -/
def isWhiteSpace (c : Char) : Bool := inRanges whiteSpaceRanges c.toNat

/-- Whether a character is white space or an information separator. -/
def isBlank (c : Char) : Bool :=
  isWhiteSpace c || (0x1C ≤ c.toNat && c.toNat ≤ 0x1F)

/-- The characters left after those in the set `p` are taken from both ends. -/
def trimBy (p : Char → Bool) (cs : List Char) : List Char :=
  ((cs.dropWhile p).reverse.dropWhile p).reverse

end ResumableUpload.Text
