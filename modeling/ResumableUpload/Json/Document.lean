import ResumableUpload.Json.Token

/-!
# JSON documents

A document is read token by token. The containers that are still open form a stack, innermost first,
and the `Phase` says what may come next. A finished value goes into the innermost open container;
with none open it is the document, and nothing may follow it.

## Main definitions

* `Frame`, `Phase`, `Reader` — an open container, what is due, and both together.
* `Reader.step` — the reader after one more token, within a bound on the nesting.
* `Limits`, `read` — the value of a whole text within limits, `none` if it is malformed.
-/

namespace ResumableUpload.Json

/-- An open container; items and members stand last one first. -/
inductive Frame where
  /-- A list and its finished items. -/
  | list (items : List Value)
  /-- An object and its finished members. -/
  | object (members : Fields)
  /-- An object, its finished members, and the name whose value is due. -/
  | member (members : Fields) (name : String)

/-- What the next token may be. -/
inductive Phase where
  /-- The beginning of a value. -/
  | value
  /-- The beginning of a value, or the end of a list without items. -/
  | firstItem
  /-- A name, or the end of an object without members. -/
  | firstName
  /-- A name. -/
  | name
  /-- The colon after a name. -/
  | colon
  /-- A comma or the end of the container. -/
  | separator
  /-- Nothing: the document is complete. -/
  | finished (v : Value)

/-- The state of reading a document. -/
structure Reader where
  /-- The open containers, innermost first. -/
  stack : List Frame
  /-- What is due. -/
  phase : Phase

namespace Reader

/-- A finished value put into the innermost open container. -/
def deliver (v : Value) : List Frame → Option Reader
  | [] => some ⟨[], .finished v⟩
  | .list items :: stack => some ⟨.list (v :: items) :: stack, .separator⟩
  | .member members name :: stack => some ⟨.object ((name, v) :: members) :: stack, .separator⟩
  | .object _ :: _ => none

/-- The reader after the first token of a value. -/
def openValue (stack : List Frame) : Token → Option Reader
  | .openObject => some ⟨.object [] :: stack, .firstName⟩
  | .openList => some ⟨.list [] :: stack, .firstItem⟩
  | .text s => deliver (.text s) stack
  | .scalar v => deliver v stack
  | _ => none

/-- The reader after the first token of a value that stands in at most `limit` containers. -/
def beginValue (limit : Nat) (stack : List Frame) (token : Token) : Option Reader :=
  if limit < stack.length then none else openValue stack token

/-- The reader after the name of a member. -/
def beginMember (stack : List Frame) : Token → Option Reader
  | .text name =>
    match stack with
    | .object members :: stack => some ⟨.member members name :: stack, .colon⟩
    | _ => none
  | _ => none

/-- The reader after the end of the innermost container or a comma in it. -/
def continueContainer (stack : List Frame) (token : Token) : Option Reader :=
  match stack, token with
  | .list items :: stack, .closeList => deliver (.list items.reverse) stack
  | .list items :: stack, .comma => some ⟨.list items :: stack, .value⟩
  | .object members :: stack, .closeObject => deliver (.object members.reverse) stack
  | .object members :: stack, .comma => some ⟨.object members :: stack, .name⟩
  | _, _ => none

/-- The reader after one more token, with every value in at most `limit` containers. -/
def step (limit : Nat) (r : Reader) (token : Token) : Option Reader :=
  match r.phase with
  | .value => beginValue limit r.stack token
  | .firstItem =>
    match token with
    | .closeList => continueContainer r.stack .closeList
    | token => beginValue limit r.stack token
  | .firstName =>
    match token with
    | .closeObject => continueContainer r.stack .closeObject
    | token => beginMember r.stack token
  | .name => beginMember r.stack token
  | .colon =>
    match token with
    | .colon => some ⟨r.stack, .value⟩
    | _ => none
  | .separator => continueContainer r.stack token
  | .finished _ => none

/-- The reader after a row of tokens. -/
def run (limit : Nat) : Reader → List Token → Option Reader
  | r, [] => some r
  | r, token :: tokens =>
    match r.step limit token with
    | none => none
    | some r => run limit r tokens

/-- The document, if it is complete. -/
def result? (r : Reader) : Option Value :=
  match r.phase with
  | .finished v => some v
  | _ => none

/-- Reading a row of tokens is reading its parts one after the other. -/
theorem run_append (limit : Nat) (r : Reader) (first second : List Token) :
    run limit r (first ++ second) = (run limit r first).bind fun r => run limit r second := by
  induction first generalizing r with
  | nil => rfl
  | cons token tokens ih =>
    simp only [List.cons_append, run]
    cases r.step limit token with
    | none => rfl
    | some r => exact ih r

end Reader

/-- What is still read of a JSON text. -/
structure Limits where
  /-- The most containers that a value may stand in. -/
  nesting : Nat
  /-- The most digits that an integer, or the whole part of another numeral, may have. -/
  width : Nat

/-- The value of a JSON text within the limits. -/
def read (limits : Limits) (s : String) : Option Value := do
  let tokens ← tokenize limits.width s
  let reader ← Reader.run limits.nesting ⟨[], .value⟩ tokens
  reader.result?

end ResumableUpload.Json
