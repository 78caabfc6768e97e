import ResumableUpload.Text.Hexadecimal
import ResumableUpload.Text.Point
import ResumableUpload.Text.Utf8

/-!
# Percent escapes

In an address, a byte may be written as `%` and two hexadecimal digits. The escapes of a run of
ASCII characters are read together as UTF-8, so the bytes of one character may come from several
escapes; a character outside ASCII ends the run. A `%` without its two digits stands for itself.

## Main definitions

* `Percent.unescape` — the bytes of a run of ASCII characters.
* `Percent.decode` — the text that a text with escapes stands for.
* `Percent.decodePoints` — the same for a text that may hold lone surrogates.
-/

namespace ResumableUpload.Text.Percent

/-- The byte written by two hexadecimal digits. -/
def byte? (a b : Char) : Option UInt8 := do
  let high ← hexValue? a
  let low ← hexValue? b
  some (UInt8.ofNat (16 * high + low))

/-- The bytes of a run of ASCII characters, its escapes replaced by the bytes they write. -/
def unescape : List Char → List UInt8
  | [] => []
  | [c] => [UInt8.ofNat c.toNat]
  | [c, d] => [UInt8.ofNat c.toNat, UInt8.ofNat d.toNat]
  | c :: a :: b :: rest =>
    if c = '%' then
      match byte? a b with
      | some byte => byte :: unescape rest
      | none => UInt8.ofNat c.toNat :: unescape (a :: b :: rest)
    else UInt8.ofNat c.toNat :: unescape (a :: b :: rest)

/-- The characters of a run of ASCII characters, escapes decoded. -/
def decodeRun (run : List Char) : List Char := Utf8.decode (unescape run)

/-- The characters of a text after an unfinished run, which stands last character first. -/
def decodeFrom (run : List Char) : List Char → List Char
  | [] => decodeRun run.reverse
  | c :: cs =>
    if c.toNat < 128 then decodeFrom (c :: run) cs
    else decodeRun run.reverse ++ c :: decodeFrom [] cs

/-- The characters of a row of characters, escapes decoded. -/
def decodeChars (cs : List Char) : List Char := decodeFrom [] cs

/-- The text that a text with escapes stands for: `unquote`. -/
def decode (s : String) : String := String.ofList (decodeChars s.toList)

/-- The points that points with escapes stand for, after characters that stand last one first. A
lone surrogate is no ASCII character: it ends a run, and is kept. -/
def decodePointsFrom (front : List Char) : List Point → List Point
  | [] => (decodeChars front.reverse).map .char
  | .char c :: points => decodePointsFrom (c :: front) points
  | .surrogate number :: points =>
    (decodeChars front.reverse).map .char ++ .surrogate number :: decodePointsFrom [] points

/-- The points that a row of points stands for, escapes decoded. -/
def decodePoints (points : List Point) : List Point := decodePointsFrom [] points

end ResumableUpload.Text.Percent
