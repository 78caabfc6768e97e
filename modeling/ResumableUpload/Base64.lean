/-!
# Base64

A byte string is written in the standard alphabet, three bytes as four characters, the last group
padded with `=`. Reading is strict about what stands in the text and where: only the alphabet and
padding, no padding in front, none before further data, nothing after complete padding. Bits of a
last character that belong to no byte are dropped, and padding after a complete group is allowed.

## Main definitions

* `Base64.encode` — the text of a byte string.
* `Base64.decode` — the byte string of a text.
* `Base64.Fault` — why a text is refused, with its `message`.
-/

namespace ResumableUpload.Base64

/-- The character of a six-bit value. -/
def symbol (n : Nat) : Char :=
  if n < 26 then Char.ofNat (65 + n)
  else if n < 52 then Char.ofNat (71 + n)
  else if n < 62 then Char.ofNat (n - 4)
  else if n = 62 then '+'
  else '/'

/-- The six-bit value of a character of the alphabet. -/
def symbolValue? (c : Char) : Option Nat :=
  let n := c.toNat
  if 65 ≤ n ∧ n ≤ 90 then some (n - 65)
  else if 97 ≤ n ∧ n ≤ 122 then some (n - 71)
  else if 48 ≤ n ∧ n ≤ 57 then some (n + 4)
  else if c = '+' then some 62
  else if c = '/' then some 63
  else none

/-! ### Writing -/

/-- The text of the remaining bytes after what is already written. -/
def encodeInto (written : String) : List UInt8 → String
  | [] => written
  | [a] =>
    let n := a.toNat * 16
    (((written.push (symbol (n / 64))).push (symbol (n % 64))).push '=').push '='
  | [a, b] =>
    let n := (a.toNat * 256 + b.toNat) * 4
    (((written.push (symbol (n / 4096))).push (symbol (n / 64 % 64))).push
      (symbol (n % 64))).push '='
  | a :: b :: c :: rest =>
    let n := (a.toNat * 256 + b.toNat) * 256 + c.toNat
    encodeInto ((((written.push (symbol (n / 262144))).push (symbol (n / 4096 % 64))).push
      (symbol (n / 64 % 64))).push (symbol (n % 64))) rest

/-- The text of a byte string: `b64encode`. -/
def encode (bytes : ByteArray) : String := encodeInto "" bytes.data.toList

/-! ### Reading -/

/-- Why a text stands for no byte string. -/
inductive Fault where
  /-- It holds a character outside ASCII. -/
  | notAscii
  /-- It begins with padding. -/
  | leadingPadding
  /-- Something follows the complete padding. -/
  | excessData
  /-- It holds a character outside the alphabet. -/
  | foreignCharacter
  /-- Data follows padding. -/
  | discontinuousPadding
  /-- The last group has a single character; `characters` counts those of data. -/
  | loneCharacter (characters : Nat)
  /-- The last group lacks padding. -/
  | incompletePadding
deriving DecidableEq, Repr

/-- What is said about the fault. -/
def Fault.message : Fault → String
  | .notAscii => "string argument should contain only ASCII characters"
  | .leadingPadding => "Leading padding not allowed"
  | .excessData => "Excess data after padding"
  | .foreignCharacter => "Only base64 data is allowed"
  | .discontinuousPadding => "Discontinuous padding not allowed"
  | .loneCharacter characters =>
    s!"Invalid base64-encoded string: number of data characters ({characters}) " ++
      "cannot be 1 more than a multiple of 4"
  | .incompletePadding => "Incorrect padding"

/-- What has been read of a text. -/
structure Scan where
  /-- The complete bytes. -/
  bytes : ByteArray := .empty
  /-- The place in the group of four. -/
  place : Nat := 0
  /-- The bits of the group that belong to no complete byte yet. -/
  left : Nat := 0
  /-- The padding characters counted since the last data. -/
  pads : Nat := 0
  /-- Whether any padding has been seen. -/
  padded : Bool := false

/-- One more byte. -/
def Scan.emit (scan : Scan) (n : Nat) : ByteArray := scan.bytes.push (UInt8.ofNat n)

/-- What has been read after one more character of data. -/
def Scan.take (scan : Scan) (n : Nat) : Scan :=
  match scan.place with
  | 0 => ⟨scan.bytes, 1, n, 0, scan.padded⟩
  | 1 => ⟨scan.emit (scan.left * 4 + n / 16), 2, n % 16, 0, scan.padded⟩
  | 2 => ⟨scan.emit (scan.left * 16 + n / 4), 3, n % 4, 0, scan.padded⟩
  | _ => ⟨scan.emit (scan.left * 64 + n), 0, 0, 0, scan.padded⟩

/-- The byte string at the end of the text. -/
def Scan.close (scan : Scan) : Except Fault ByteArray :=
  match scan.place with
  | 0 => .ok scan.bytes
  | 1 => .error (.loneCharacter (scan.bytes.size / 3 * 4 + 1))
  | _ => .error .incompletePadding

/-- The byte string of the remaining characters after what has been read. -/
def scanFrom (scan : Scan) : List Char → Except Fault ByteArray
  | [] => scan.close
  | c :: cs =>
    if c = '=' then
      if 2 ≤ scan.place then
        if 4 ≤ scan.place + (scan.pads + 1) then
          if cs.isEmpty then .ok scan.bytes else .error .excessData
        else scanFrom ⟨scan.bytes, scan.place, scan.left, scan.pads + 1, true⟩ cs
      else scanFrom ⟨scan.bytes, scan.place, scan.left, scan.pads, true⟩ cs
    else match symbolValue? c with
      | none => .error .foreignCharacter
      | some n => if scan.padded then .error .discontinuousPadding else scanFrom (scan.take n) cs

/-- The byte string that a text stands for: `b64decode`, which validates. -/
def decode (s : String) : Except Fault ByteArray :=
  let cs := s.toList
  if !cs.all fun c => c.toNat < 128 then .error .notAscii
  else if cs.head? = some '=' then .error .leadingPadding
  else scanFrom ⟨.empty, 0, 0, 0, false⟩ cs

end ResumableUpload.Base64
