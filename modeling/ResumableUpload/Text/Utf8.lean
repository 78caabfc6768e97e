/-!
# Reading UTF-8 that may be damaged

Bytes are read one at a time. A character of several bytes stays **pending** until its last byte; a
byte that cannot continue it ends it as one replacement character and is then read afresh. So every
longest beginning of a character that the next byte cuts off shows as one replacement character, and
so does every byte that can begin nothing.

## Main definitions

* `Utf8.Pending` — a character of several bytes that is not complete.
* `Utf8.step` — the characters that one more byte completes, and what is pending after it.
* `Utf8.decode` — the characters of a row of bytes.
-/

namespace ResumableUpload.Text.Utf8

/-- The character that stands for damaged bytes. -/
def replacement : Char := Char.ofNat 0xFFFD

/-- A character of several bytes that is not complete. -/
structure Pending where
  /-- The number of bytes still due, less one. -/
  more : Nat
  /-- The least value of the next byte. -/
  low : Nat
  /-- The greatest value of the next byte. -/
  high : Nat
  /-- The bits read so far. -/
  value : Nat
deriving DecidableEq, Repr

/-- The first byte of a character. The bounds on the second byte exclude overlong forms, surrogates
and numbers beyond the last code point. -/
def first (b : Nat) : List Char × Option Pending :=
  if b < 0x80 then ([Char.ofNat b], none)
  else if b < 0xC2 then ([replacement], none)
  else if b < 0xE0 then ([], some ⟨0, 0x80, 0xBF, b - 0xC0⟩)
  else if b = 0xE0 then ([], some ⟨1, 0xA0, 0xBF, 0⟩)
  else if b = 0xED then ([], some ⟨1, 0x80, 0x9F, 0xD⟩)
  else if b < 0xF0 then ([], some ⟨1, 0x80, 0xBF, b - 0xE0⟩)
  else if b = 0xF0 then ([], some ⟨2, 0x90, 0xBF, 0⟩)
  else if b < 0xF4 then ([], some ⟨2, 0x80, 0xBF, b - 0xF0⟩)
  else if b = 0xF4 then ([], some ⟨2, 0x80, 0x8F, 4⟩)
  else ([replacement], none)

/-- The characters that one more byte completes, and what is pending after it. -/
def step : Option Pending → Nat → List Char × Option Pending
  | none, b => first b
  | some p, b =>
    if p.low ≤ b ∧ b ≤ p.high then
      let value := p.value * 64 + (b - 0x80)
      match p.more with
      | 0 => ([Char.ofNat value], none)
      | more + 1 => ([], some ⟨more, 0x80, 0xBF, value⟩)
    else
      let (chars, pending) := first b
      (replacement :: chars, pending)

/-- The characters of a row of bytes after what is pending. -/
def decodeFrom : Option Pending → List UInt8 → List Char
  | none, [] => []
  | some _, [] => [replacement]
  | pending, b :: bytes =>
    let (chars, pending) := step pending b.toNat
    chars ++ decodeFrom pending bytes

/-- The characters of a row of bytes. -/
def decode (bytes : List UInt8) : List Char := decodeFrom none bytes

end ResumableUpload.Text.Utf8
