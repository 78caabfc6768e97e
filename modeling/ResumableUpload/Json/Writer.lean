import ResumableUpload.Text.Quoted

/-!
# Writing JSON

Documents are written without white space. A text is written as itself between double quotes, except
for the double quote, the backslash and the characters below U+0020, which are escaped: by a letter
where JSON has one, otherwise by number in lower case.

## Main definitions

* `writeText` — a text as a JSON string.
* `writeOptionalText`, `writeOptionalInt`, `writeBool` — the scalars of a document.
* `writeObject` — an object from names and written values.
-/

namespace ResumableUpload.Json

/-- A character as it stands inside a JSON string. -/
def writeChar (c : Char) : List Char :=
  if c = Text.doubleQuote ∨ c = Text.backslash then [Text.backslash, c]
  else if c.toNat = 8 then [Text.backslash, 'b']
  else if c.toNat = 12 then [Text.backslash, 'f']
  else if c = '\n' then [Text.backslash, 'n']
  else if c = '\r' then [Text.backslash, 'r']
  else if c = '\t' then [Text.backslash, 't']
  else if c.toNat < 0x20 then Text.backslash :: 'u' :: Text.hexDigits 4 c.toNat
  else [c]

/-- The characters as they stand inside a JSON string, after what is already written. -/
def writeChars (written : String) (cs : List Char) : String :=
  cs.foldl (fun written c => (writeChar c).foldl String.push written) written

/-- A text as a JSON string. -/
def writeText (s : String) : String :=
  (writeChars (String.singleton Text.doubleQuote) s.toList).push Text.doubleQuote

/-- Pushing characters one by one appends them. -/
theorem toList_foldl_push (written : String) (cs : List Char) :
    (cs.foldl String.push written).toList = written.toList ++ cs := by
  induction cs generalizing written with
  | nil => simp
  | cons c cs ih => simp [ih]

/-- What is written holds each character in its written form, in order. -/
theorem toList_writeChars (written : String) (cs : List Char) :
    (writeChars written cs).toList = written.toList ++ cs.flatMap writeChar := by
  induction cs generalizing written with
  | nil => simp [writeChars]
  | cons c cs ih =>
    have step : writeChars written (c :: cs) =
        writeChars ((writeChar c).foldl String.push written) cs := rfl
    rw [step, ih, toList_foldl_push, List.flatMap_cons, List.append_assoc]

/-- An optional text: absent is `null`. -/
def writeOptionalText : Option String → String
  | none => "null"
  | some s => writeText s

/-- An optional integer: absent is `null`. -/
def writeOptionalInt : Option Int → String
  | none => "null"
  | some n => toString n

/-- A truth value. -/
def writeBool (b : Bool) : String := if b then "true" else "false"

/-- An object from its members' names and written values, in order. -/
def writeObject (members : List (String × String)) : String :=
  "\x7b" ++ ",".intercalate (members.map fun m => writeText m.1 ++ ":" ++ m.2) ++ "\x7d"

end ResumableUpload.Json
