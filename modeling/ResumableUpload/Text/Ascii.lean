/-!
# ASCII letters and digits

Grammars of data formats and addresses know letters and digits of ASCII only.

## Main definitions

* `isAsciiDigit`, `asciiValue` — the ten digits, and the number that a row of them writes.
* `isAsciiLetter`, `asciiLower` — the letters, and their lower case.
-/

namespace ResumableUpload.Text

/-- Whether a character is one of the ten ASCII digits. -/
def isAsciiDigit (c : Char) : Bool := 48 ≤ c.toNat && c.toNat ≤ 57

/-- Whether a character is an ASCII letter. -/
def isAsciiLetter (c : Char) : Bool :=
  (97 ≤ c.toNat && c.toNat ≤ 122) || (65 ≤ c.toNat && c.toNat ≤ 90)

/-- The lower case of an ASCII letter; any other character is its own. -/
def asciiLower (c : Char) : Char :=
  if 65 ≤ c.toNat ∧ c.toNat ≤ 90 then Char.ofNat (c.toNat + 32) else c

/-- The number written by a row of ASCII digits, most significant first. -/
def asciiValue (cs : List Char) : Nat :=
  cs.foldl (fun n c => 10 * n + (c.toNat - 48)) 0

end ResumableUpload.Text
