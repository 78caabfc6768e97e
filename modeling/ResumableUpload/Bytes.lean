/-!
# Byte strings

Equality of byte strings is decided on their bytes. The byte strings of a row are **joined** to one.

## Main definitions

* `joined` — the byte strings of a row, one after the other.
-/

namespace ResumableUpload

/-- Byte strings are equal when their bytes are. -/
instance decideBytes : DecidableEq ByteArray := ByteArray.instDecidableEq

/-- The byte strings of a row, one after the other. -/
def joined : List ByteArray → ByteArray
  | [] => .empty
  | bytes :: row => bytes ++ joined row

/-- Joining nothing gives nothing. -/
@[simp] theorem joined_nil : joined [] = .empty := rfl

/-- The first byte string of a row comes first. -/
@[simp] theorem joined_cons (bytes : ByteArray) (row : List ByteArray) :
    joined (bytes :: row) = bytes ++ joined row := rfl

/-- Two rows are joined one after the other. -/
@[simp] theorem joined_append (first second : List ByteArray) :
    joined (first ++ second) = joined first ++ joined second := by
  induction first with
  | nil => simp
  | cons bytes first ih => simp [ih, ByteArray.append_assoc]

end ResumableUpload
