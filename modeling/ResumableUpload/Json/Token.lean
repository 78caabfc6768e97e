import ResumableUpload.Value

/-!
# Tokens of a JSON text

A JSON text is read character by character. What has been read so far of the current token is a
`Mode`; a character moves to the next mode and may complete tokens. Punctuation and quoted texts end
with their last character, while a bare word ends before the first character that cannot belong to
it. Words are the three names, the numerals, and the names of the numbers that no numeral can write.

## Main definitions

* `Token` — punctuation, or a text, or another scalar.
* `Mode`, `Mode.step` — the scanner, one character at a time.
* `tokenize` — all tokens of a text, `none` if it is malformed.
-/

namespace ResumableUpload.Json

/-- A token of a JSON text. -/
inductive Token where
  /-- The opening brace of an object. -/
  | openObject
  /-- The closing brace of an object. -/
  | closeObject
  /-- The opening bracket of a list. -/
  | openList
  /-- The closing bracket of a list. -/
  | closeList
  /-- The colon between a name and its value. -/
  | colon
  /-- The comma between items. -/
  | comma
  /-- A quoted text. -/
  | text (s : String)
  /-- A scalar that is not a text. -/
  | scalar (v : Value)

/-- What has been read of the current token. -/
inductive Mode where
  /-- Nothing: the next character begins a token or is white space. -/
  | between
  /-- The characters of a bare word, last one first. -/
  | word (chars : List Char)
  /-- The characters of a quoted text. -/
  | text (read : String)
  /-- A text and the backslash after it. -/
  | escape (read : String)
  /-- A text and `count` digits of a numbered 16-bit unit with the given value; `high` is the first
  unit of a pair that waits for its second. -/
  | unit (read : String) (high : Option Nat) (count value : Nat)
  /-- A text and the first unit of a pair. -/
  | pair (read : String) (high : Nat)
  /-- A text, the first unit of a pair and the backslash after it. -/
  | pairEscape (read : String) (high : Nat)

/-- Whether a character can belong to a bare word. -/
def isWordChar (c : Char) : Bool :=
  Text.isAsciiLetter c || Text.isAsciiDigit c || c = '+' || c = '-' || c = '.'

/-- The scalar that a numeral stands for: an integer if it is whole, else a floating-point number.
-/
def numeralValue (n : Numeral) : Value := if n.isWhole then .int n.toInt else .float (.ofNumeral n)

/-- The scalar that a bare word stands for. A numeral whose whole part has more than `width` digits
is refused. -/
def wordValue? (width : Nat) (word : List Char) : Option Value :=
  if word = "null".toList then some .null
  else if word = "true".toList then some (.bool true)
  else if word = "false".toList then some (.bool false)
  else if word = "NaN".toList then some (.float .nan)
  else if word = "Infinity".toList then some (.float (.infinite false))
  else if word = "-Infinity".toList then some (.float (.infinite true))
  else if Numeral.isOverlong width word then none
  else (Numeral.ofChars? word).map numeralValue

/-- The token that a character between tokens completes or begins. -/
def begin? (c : Char) : Option (Mode × List Token) :=
  if c = ' ' ∨ c = '\t' ∨ c = '\n' ∨ c = '\r' then some (.between, [])
  else if c = '\x7b' then some (.between, [.openObject])
  else if c = '\x7d' then some (.between, [.closeObject])
  else if c = '[' then some (.between, [.openList])
  else if c = ']' then some (.between, [.closeList])
  else if c = ':' then some (.between, [.colon])
  else if c = ',' then some (.between, [.comma])
  else if c = Text.doubleQuote then some (.text "", [])
  else if isWordChar c then some (.word [c], [])
  else none

/-- The character that a letter after a backslash stands for. -/
def escaped? (c : Char) : Option Char :=
  if c = Text.doubleQuote ∨ c = Text.backslash ∨ c = '/' then some c
  else if c = 'b' then some (Char.ofNat 8)
  else if c = 'f' then some (Char.ofNat 12)
  else if c = 'n' then some '\n'
  else if c = 'r' then some '\r'
  else if c = 't' then some '\t'
  else none

/-- A text after a complete 16-bit unit. A unit of a pair counts only together with its partner. -/
def closeUnit? (read : String) (high : Option Nat) (unit : Nat) : Option Mode :=
  let isHigh := 0xD800 ≤ unit ∧ unit < 0xDC00
  let isLow := 0xDC00 ≤ unit ∧ unit < 0xE000
  match high with
  | none =>
    if isHigh then some (.pair read unit)
    else if isLow then none
    else some (.text (read.push (Char.ofNat unit)))
  | some first =>
    if isLow then
      some (.text (read.push
        (Char.ofNat (0x10000 + (first - 0xD800) * 0x400 + (unit - 0xDC00)))))
    else none

/-- The mode after one more character, and the tokens that it completes. -/
def Mode.step (width : Nat) : Mode → Char → Option (Mode × List Token)
  | .between, c => begin? c
  | .word chars, c =>
    if isWordChar c then some (.word (c :: chars), [])
    else do
      let value ← wordValue? width chars.reverse
      let (mode, tokens) ← begin? c
      some (mode, .scalar value :: tokens)
  | .text read, c =>
    if c = Text.doubleQuote then some (.between, [.text read])
    else if c = Text.backslash then some (.escape read, [])
    else if c.toNat < 0x20 then none
    else some (.text (read.push c), [])
  | .escape read, c =>
    if c = 'u' then some (.unit read none 0 0, [])
    else (escaped? c).map fun e => (.text (read.push e), [])
  | .unit read high count value, c => do
    let digit ← Text.hexValue? c
    if count < 3 then some (.unit read high (count + 1) (16 * value + digit), [])
    else (closeUnit? read high (16 * value + digit)).map fun mode => (mode, [])
  | .pair read high, c => if c = Text.backslash then some (.pairEscape read high, []) else none
  | .pairEscape read high, c => if c = 'u' then some (.unit read (some high) 0 0, []) else none

/-- The tokens that the end of the text completes. -/
def Mode.close? (width : Nat) : Mode → Option (List Token)
  | .between => some []
  | .word chars => (wordValue? width chars.reverse).map fun value => [.scalar value]
  | _ => none

/-- The tokens from a mode on, `done` holding those before it, last one first. -/
def tokensFrom (width : Nat) (mode : Mode) (done : List Token) : List Char → Option (List Token)
  | [] => (mode.close? width).map fun tokens => done.reverse ++ tokens
  | c :: cs =>
    match mode.step width c with
    | none => none
    | some (mode, tokens) => tokensFrom width mode (tokens.reverse ++ done) cs

/-- All tokens of a text whose integers have at most `width` digits. -/
def tokenize (width : Nat) (s : String) : Option (List Token) :=
  tokensFrom width .between [] s.toList

end ResumableUpload.Json
