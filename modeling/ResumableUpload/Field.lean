import ResumableUpload.Text.Blank
import ResumableUpload.Text.Point
import ResumableUpload.Validation

/-!
# Reading fields

A field of a model is read from a value that may be of a neighbouring type: an integer may be given
as a truth value, a whole floating-point number or a text, a text as UTF-8 bytes, a truth value as
0, 1 or one of the usual words.

## Main definitions

* `Field.integer`, `Field.text`, `Field.truth`, `Field.bytes` — the value of a field of that type.
* `Field.nullable`, `Field.notEmpty`, `Field.notNegative` — what may be added to them.
* `Field.required`, `Field.optional` — a field of a model, looked up by name.
-/

namespace ResumableUpload.Field

/-! ### Integers -/

/-- The integer that a row of characters writes as a numeral, if it is not too long. -/
def integerNumeral? (cs : List Char) : Option Int :=
  if Numeral.isOverlong maxDigits cs then none
  else match Numeral.ofChars? cs with
    | none => none
    | some n => if n.isWhole then some n.toInt else none

/-- Whether a character may stand among leading zeros. -/
def isPadding (c : Char) : Bool := c = '0' || c = '_'

/-- An unsigned integer without its leading zeros and the underscores among them. The last of them
stays if nothing or a fraction follows; else a digit has to follow, or a minus sign. -/
def dropPadding? : List Char → Option (List Char)
  | [] => none
  | c :: cs =>
    if c = '0' then
      let last := (c :: cs.takeWhile isPadding).getLast?.toList
      match cs.dropWhile isPadding with
      | [] => some last
      | d :: ds =>
        if d = '.' then some (last ++ d :: ds)
        else if Text.isAsciiDigit d || d = '-' then some (d :: ds)
        else none
    else if Text.isAsciiDigit c then some (c :: cs)
    else none

/-- A number without its fraction, if that is a fraction of zeros. -/
def dropEmptyFraction (cs : List Char) : List Char :=
  match cs.dropWhile (· ≠ '.') with
  | [] => cs
  | _ :: zeros =>
    if !zeros.isEmpty && zeros.all (· = '0') then cs.takeWhile (· ≠ '.') else cs

/-- Whether every underscore after the first character stands alone and is followed by something. -/
def isSeparated : List Char → Bool
  | [] => true
  | ['_'] => false
  | '_' :: '_' :: _ => false
  | _ :: cs => isSeparated cs

/-- A number without underscores, which may stand singly between other characters. -/
def dropUnderscores? (cs : List Char) : Option (List Char) :=
  if cs.head? ≠ some '_' && isSeparated cs then some (cs.filter (· ≠ '_')) else none

/-- An unsigned integer without what a numeral does not have. -/
def tidyUnsigned? (cs : List Char) : Option (List Char) :=
  (dropPadding? cs).bind fun cs => dropUnderscores? (dropEmptyFraction cs)

/-- The numeral of an integer that is written more freely: with white space around it, a plus sign,
leading zeros, underscores, and a fraction of zeros. -/
def tidy? (cs : List Char) : Option (List Char) :=
  match Text.trimBy Text.isWhiteSpace cs with
  | '-' :: cs => (tidyUnsigned? cs).map ('-' :: ·)
  | '+' :: cs => tidyUnsigned? cs
  | cs => tidyUnsigned? cs

/-- The integer that a text writes, as a numeral or more freely. The text is too large if it begins
with a numeral that is too long as it stands. -/
def integerOfText (s : String) : Except Rule Int :=
  let cs := s.toList
  if Numeral.isOverlong maxDigits cs then .error .integerSize
  else match integerNumeral? cs with
    | some n => .ok n
    | none =>
      match (tidy? cs).bind integerNumeral? with
      | some n => .ok n
      | none => .error .integerText

/-- The magnitude that integers of 64 bits stay below, or reach on the negative side. -/
def wordBound : Nat := twoTo 63

/-- The integer equal to a floating-point number, which is to be whole and smaller than
`wordBound` in magnitude. -/
def integerOfFloat (x : Binary64) : Except Rule Int :=
  if !x.isFinite then .error .finite
  else match x.toInt? with
    | none => .error .integerWhole
    | some n => if n.natAbs < wordBound then .ok n else .error .integerSize

/-- The integer that a value stands for. -/
def integer : Value → Except Rule Int
  | .int n => .ok n
  | .bool b => .ok (if b then 1 else 0)
  | .float x => integerOfFloat x
  | .text s => integerOfText s
  | .bytes b =>
    match String.fromUTF8? b with
    | none => .error .integerText
    | some s => integerOfText s
  | _ => .error .integer

/-! ### Texts -/

/-- The text that a value stands for. -/
def text : Value → Except Rule String
  | .text s => .ok s
  | .bytes b =>
    match String.fromUTF8? b with
    | none => .error .textEncoding
    | some s => .ok s
  | _ => .error .text

/-- The text that a row of points is, if none of them is a lone surrogate. -/
def textOfPoints (points : List Text.Point) : Except Rule String :=
  match Text.Point.characters? points with
  | none => .error .textEncoding
  | some cs => .ok (String.ofList cs)

/-! ### Truth values -/

/-- The truth value that a word stands for, in any mixture of cases. -/
def truthOfText (s : String) : Except Rule Bool :=
  let word := String.ofList (s.toList.map Text.asciiLower)
  if word ∈ ["1", "true", "t", "yes", "y", "on"] then .ok true
  else if word ∈ ["0", "false", "f", "no", "n", "off"] then .ok false
  else .error .truthReading

/-- The truth value that an integer stands for; only integers of 64 bits are looked at. -/
def truthOfInt (n : Int) : Except Rule Bool :=
  if n = 1 then .ok true
  else if n = 0 then .ok false
  else if -wordBound ≤ n ∧ n < wordBound then .error .truthReading
  else .error .truth

/-- The truth value that a value stands for. -/
def truth : Value → Except Rule Bool
  | .bool b => .ok b
  | .int n => truthOfInt n
  | .float x =>
    match integerOfFloat x with
    | .ok n => truthOfInt n
    | .error _ => .error .truth
  | .text s => truthOfText s
  | .bytes b =>
    match String.fromUTF8? b with
    | none => .error .truthReading
    | some s => truthOfText s
  | _ => .error .truth

/-! ### Byte strings -/

/-- The byte string that a value is, or that it writes as a base64 text: `_decode_buffer`. -/
def bytes : Value → Except Rule ByteArray
  | .bytes b => .ok b
  | .text s =>
    match Base64.decode s with
    | .ok b => .ok b
    | .error fault => .error (.base64 fault)
  | _ => .error .bytes

/-! ### Additions -/

/-- A field that may be nothing. -/
def nullable {α : Type} (read : Value → Except Rule α) : Value → Except Rule (Option α)
  | .null => .ok none
  | v => (read v).map some

/-- A text that is not empty. -/
def notEmpty {α : Type} (read : α → Except Rule String) (v : α) : Except Rule String :=
  match read v with
  | .error rule => .error rule
  | .ok s => if s.isEmpty then .error .textNotEmpty else .ok s

/-- An integer that is not negative. -/
def notNegative (read : Value → Except Rule Int) (v : Value) : Except Rule Nat :=
  match read v with
  | .error rule => .error rule
  | .ok n => if n < 0 then .error .nonNegative else .ok n.toNat

/-- An integer that is a chunk size: `_check_chunk_size`. -/
def chunkSize (v : Value) : Except Rule ChunkSize :=
  match integer v with
  | .error rule => .error rule
  | .ok n =>
    match ChunkSize.ofInt n with
    | .error fault => .error (.chunkSize fault)
    | .ok size => .ok size

/-! ### Fields by name -/

/-- A broken rule reported at a field. -/
def reportAt {α : Type} (name : String) : Except Rule α → Except Report α
  | .ok a => .ok a
  | .error rule => .error [⟨[name], rule⟩]

/-- The field of a name; a field that is not given breaks a rule. -/
def required {α : Type} (fields : Fields) (name : String) (read : Value → Except Rule α) :
    Except Report α :=
  reportAt name <| match fields.lookup name with
    | none => .error .present
    | some v => read v

/-- The field of a name; a field that is not given has its default. -/
def optional {α : Type} (fields : Fields) (name : String) (absent : α)
    (read : Value → Except Rule α) : Except Report α :=
  reportAt name <| match fields.lookup name with
    | none => .ok absent
    | some v => read v

end ResumableUpload.Field
