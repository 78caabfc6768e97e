/-!
# Positions in a text

A position in a text is given by the number of characters before it, or by its line and column. A
line ends with its newline; lines and columns are counted from one.

## Main definitions

* `before` — the characters before a position.
* `lineAt`, `columnAt` — the line and the column of a position.
-/

namespace ResumableUpload.Text

/-- The characters before a position. A negative position is counted from the end. -/
def before (cs : List Char) (position : Int) : List Char :=
  cs.take (if position < 0 then position + cs.length else position).toNat

/-- The line of a position. -/
def lineAt (cs : List Char) (position : Int) : Nat := (before cs position).count '\n' + 1

/-- The number of characters before the last line of a text. -/
def lineStart (cs : List Char) : Nat := cs.length - (cs.reverse.takeWhile (· ≠ '\n')).length

/-- The column of a position, as far from the start of its line as the position says. -/
def columnAt (cs : List Char) (position : Int) : Int :=
  position - lineStart (before cs position) + 1

end ResumableUpload.Text
