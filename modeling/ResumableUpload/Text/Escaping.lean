import ResumableUpload.Text.Ascii
import ResumableUpload.Text.Percent

/-!
# Writing percent escapes

Bytes are written into an address one by one: a byte that is the number of a plain character may
stand as that character, and any byte may be escaped, with digits of either case. Which characters
are plain depends on the part of the address.

## Main definitions

* `isUnreserved` — the characters that need no escape anywhere.
* `Percent.Writes` — how a row of bytes may be written.
* `Percent.encode` — the writing that escapes no byte without need.
-/

namespace ResumableUpload.Text

/-- Whether a character needs no escape anywhere in an address. -/
def isUnreserved (c : Char) : Bool :=
  isAsciiLetter c || isAsciiDigit c || c = '-' || c = '.' || c = '_' || c = '~'

/-- The upper-case hexadecimal digit of a value below sixteen. -/
def upperHexDigit (n : Nat) : Char :=
  if n < 10 then Char.ofNat (48 + n) else Char.ofNat (55 + n)

/-- A digit of a value, in either case. -/
def IsHexDigit (n : Nat) (c : Char) : Prop := c = hexDigit n ∨ c = upperHexDigit n

namespace Percent

/-- Characters that write a row of bytes. Only plain characters stand for themselves. -/
inductive Writes (plain : Char → Bool) : List UInt8 → List Char → Prop
  /-- No bytes are left. -/
  | nil : Writes plain [] []
  /-- A byte that is the number of a plain character. -/
  | plain {byte : UInt8} {bytes : List UInt8} {written : List Char}
    (kept : plain (Char.ofNat byte.toNat) = true) (rest : Writes plain bytes written) :
    Writes plain (byte :: bytes) (Char.ofNat byte.toNat :: written)
  /-- An escaped byte. -/
  | escaped {byte : UInt8} {bytes : List UInt8} {high low : Char} {written : List Char}
    (upper : IsHexDigit (byte.toNat / 16) high) (lower : IsHexDigit (byte.toNat % 16) low)
    (rest : Writes plain bytes written) :
    Writes plain (byte :: bytes) ('%' :: high :: low :: written)

/-- The characters that write a byte, with digits of the given form. -/
def encodeByte (digit : Nat → Char) (plain : Char → Bool) (byte : UInt8) : List Char :=
  if plain (Char.ofNat byte.toNat) then [Char.ofNat byte.toNat]
  else ['%', digit (byte.toNat / 16), digit (byte.toNat % 16)]

/-- A text in UTF-8, escaped wherever a byte is not the number of a plain character. -/
def encode (digit : Nat → Char) (plain : Char → Bool) (s : String) : String :=
  String.ofList (s.toUTF8.data.toList.flatMap (encodeByte digit plain))

end Percent

end ResumableUpload.Text
