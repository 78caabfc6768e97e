import ResumableUpload.Base64
import ResumableUpload.ChunkSize

/-!
# Validation reports

Models are read from named values. Every rule that a value breaks is reported as a **violation**
with the path of names that leads to the value; a report lists the violations in the order of the
fields.

## Main definitions

* `Rule` — what a value has to satisfy, with its `code` and its `message?`.
* `Violation`, `Report` — a broken rule and its place, and all of them.
* `both` — two results together: both values or both reports.
-/

namespace ResumableUpload

/-- What a value of a model has to satisfy. -/
inductive Rule where
  /-- A field without default is given. -/
  | present
  /-- A value stands for an integer. -/
  | integer
  /-- A text stands for an integer. -/
  | integerText
  /-- A number that stands for an integer has no fraction. -/
  | integerWhole
  /-- A number that stands for an integer is not too large to be read. -/
  | integerSize
  /-- A number that stands for an integer is finite. -/
  | finite
  /-- A value stands for a text. -/
  | text
  /-- A byte string that stands for a text is valid UTF-8. -/
  | textEncoding
  /-- A text is not empty. -/
  | textNotEmpty
  /-- A value stands for a truth value. -/
  | truth
  /-- A text or number stands for one of the two truth values. -/
  | truthReading
  /-- A value is a byte string. -/
  | bytes
  /-- A value is an object or an instance of the named model. -/
  | model (name : String)
  /-- A document is an object. -/
  | document
  /-- A document is well-formed JSON. -/
  | wellFormed
  /-- An integer is not negative. -/
  | nonNegative
  /-- A value can be called. -/
  | callable
  /-- A model is not changed once it is made. -/
  | frozen
  /-- An integer is a chunk size. -/
  | chunkSize (fault : ChunkSize.Fault)
  /-- A text is base64. -/
  | base64 (fault : Base64.Fault)
  /-- Buffered bytes fit one chunk. -/
  | fits (fault : ChunkSize.Overfull)
deriving DecidableEq, Repr

namespace Rule

/-- The short name under which a broken rule is reported. -/
def code : Rule → String
  | present => "missing"
  | integer => "int_type"
  | integerText => "int_parsing"
  | integerWhole => "int_from_float"
  | integerSize => "int_parsing_size"
  | finite => "finite_number"
  | text => "string_type"
  | textEncoding => "string_unicode"
  | textNotEmpty => "string_too_short"
  | truth => "bool_type"
  | truthReading => "bool_parsing"
  | bytes => "bytes_type"
  | model _ => "model_type"
  | document => "dict_type"
  | wellFormed => "json_invalid"
  | nonNegative => "greater_than_equal"
  | callable => "callable_type"
  | frozen => "frozen_instance"
  | chunkSize _ => "value_error"
  | base64 _ => "value_error"
  | fits _ => "value_error"

/-- What is said about a broken rule. A malformed document is reported without a fixed text. -/
def message? : Rule → Option String
  | present => some "Field required"
  | integer => some "Input should be a valid integer"
  | integerText => some "Input should be a valid integer, unable to parse string as an integer"
  | integerWhole => some "Input should be a valid integer, got a number with a fractional part"
  | integerSize => some "Unable to parse input string as an integer, exceeded maximum size"
  | finite => some "Input should be a finite number"
  | text => some "Input should be a valid string"
  | textEncoding =>
    some "Input should be a valid string, unable to parse raw data as a unicode string"
  | textNotEmpty => some "String should have at least 1 character"
  | truth => some "Input should be a valid boolean"
  | truthReading => some "Input should be a valid boolean, unable to interpret input"
  | bytes => some "Input should be a valid bytes"
  | model name => some s!"Input should be a valid dictionary or instance of {name}"
  | document => some "Input should be an object"
  | wellFormed => none
  | nonNegative => some "Input should be greater than or equal to 0"
  | callable => some "Input should be callable"
  | frozen => some "Instance is frozen"
  | chunkSize fault => some ("Value error, " ++ fault.message)
  | base64 fault => some ("Value error, " ++ fault.message)
  | fits fault => some ("Value error, " ++ fault.message)

end Rule

/-- A broken rule and the names that lead to the value, outermost first. -/
structure Violation where
  /-- The names that lead to the value. -/
  path : List String
  /-- The broken rule. -/
  rule : Rule
deriving DecidableEq, Repr

/-- The violations found, in the order of the fields. -/
abbrev Report := List Violation

/-- A report seen from one level further out. -/
def Report.inside (name : String) (report : Report) : Report :=
  report.map fun v => ⟨name :: v.path, v.rule⟩

/-- A report of a single violation on the whole model. -/
def Report.single (rule : Rule) : Report := [⟨[], rule⟩]

/-- Two results together: both values, or the violations of the first and then of the second. -/
def both {α β : Type} : Except Report α → Except Report β → Except Report (α × β)
  | .ok a, .ok b => .ok (a, b)
  | .error r, .ok _ => .error r
  | .ok _, .error r => .error r
  | .error r, .error r' => .error (r ++ r')

/-- Two results together are accepted when both are. -/
theorem both_eq_ok_iff {α β : Type} {x : Except Report α} {y : Except Report β} {a : α} {b : β} :
    both x y = .ok (a, b) ↔ x = .ok a ∧ y = .ok b := by
  cases x <;> cases y <;> simp [both]

end ResumableUpload
