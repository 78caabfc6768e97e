import ResumableUpload.Field

/-!
# Named values and what is read of them

The last value of a name is in force. So among two rows of named values the second one decides, and
values of other names play no part. What is read under a name depends on nothing but what is found
there.

## Main results

* `Fields.lookup_append` — a name in two rows.
* `Fields.lookup_filter` — a name in what is kept of a row.
* `Field.required_of_lookup`, `Field.optional_of_lookup` — what is read under a name.
-/

namespace ResumableUpload.Fields

/-- What is found among the named values replaces what was found before. -/
theorem foldl_lookup (fields : Fields) (name : String) (found : Option Value) :
    fields.foldl (fun found member => if member.1 = name then some member.2 else found) found =
      (fields.lookup name).or found := by
  induction fields generalizing found with
  | nil => rfl
  | cons member fields ih =>
    rw [lookup, List.foldl_cons, List.foldl_cons, ih, ih]
    cases lookup fields name with
    | some v => rfl
    | none => by_cases same : member.1 = name <;> simp [same]

/-- The second one of two rows decides, if it has the name. -/
theorem lookup_append (first second : Fields) (name : String) :
    lookup (first ++ second) name = (second.lookup name).or (first.lookup name) := by
  rw [lookup, List.foldl_append, foldl_lookup]
  rfl

/-- The first value of a row counts if no other one does. -/
theorem lookup_cons (member : String × Value) (fields : Fields) (name : String) :
    lookup (member :: fields) name =
      (fields.lookup name).or (if member.1 = name then some member.2 else none) := by
  rw [lookup, List.foldl_cons, foldl_lookup]

/-- Dropping values of other names does not change what is found. -/
theorem lookup_filter {keeps : String × Value → Bool} {name : String}
    (kept : ∀ v, keeps (name, v) = true) (fields : Fields) :
    lookup (fields.filter keeps) name = fields.lookup name := by
  induction fields with
  | nil => rfl
  | cons member fields ih =>
    obtain ⟨other, v⟩ := member
    by_cases same : other = name
    · subst same
      rw [List.filter_cons_of_pos (kept v), lookup_cons, lookup_cons, ih]
    · have absent : lookup ((other, v) :: fields) name = lookup fields name := by
        rw [lookup_cons, if_neg same, Option.or_none]
      rw [absent]
      by_cases keep : keeps (other, v) = true
      · rw [List.filter_cons_of_pos keep, lookup_cons, if_neg same, Option.or_none, ih]
      · rw [List.filter_cons_of_neg keep, ih]

end ResumableUpload.Fields

namespace ResumableUpload.Field

variable {α : Type} {fields fields' : Fields} {name : String} {v : Value}

/-! ### Names -/

/-- A field that is given is what is read of its value. -/
theorem required_of_lookup (given : fields.lookup name = some v) (read : Value → Except Rule α) :
    required fields name read = reportAt name (read v) := by
  rw [required, given]

/-- The same for a field that has a default. -/
theorem optional_of_lookup (given : fields.lookup name = some v) (absent : α)
    (read : Value → Except Rule α) :
    optional fields name absent read = reportAt name (read v) := by
  rw [optional, given]

/-- A field that is not given has its default. -/
theorem optional_of_lookup_none (missing : fields.lookup name = none) (absent : α)
    (read : Value → Except Rule α) : optional fields name absent read = .ok absent := by
  rw [optional, missing]
  rfl

/-- Fields that are looked up alike are read alike. -/
theorem required_congr (same : fields'.lookup name = fields.lookup name)
    (read : Value → Except Rule α) :
    required fields' name read = required fields name read := by
  rw [required, same, required]

/-- The same for fields that have a default. -/
theorem optional_congr (same : fields'.lookup name = fields.lookup name) (absent : α)
    (read : Value → Except Rule α) :
    optional fields' name absent read = optional fields name absent read := by
  rw [optional, same, optional]

/-! ### Values -/

/-- A text that is not empty is read as it is. -/
theorem notEmpty_text_of_ne {s : String} (ne : s ≠ "") : notEmpty text (.text s) = .ok s := by
  simp [notEmpty, text, ne]

/-- An empty text is refused. -/
theorem notEmpty_text_empty : notEmpty text (.text "") = .error .textNotEmpty := rfl

/-- A natural number is read as it is. -/
theorem notNegative_integer (n : Nat) : notNegative integer (.int n) = .ok n := by
  have notBelow : ¬(n : Int) < 0 := by omega
  simp [notNegative, integer, notBelow]

/-- A chunk size is read as it is. -/
theorem chunkSize_int (size : ChunkSize) : chunkSize (.int size.bytes) = .ok size := by
  simp [chunkSize, integer]

/-- An optional text is read as it was written. -/
theorem nullable_text (s : Option String) : nullable text (Value.optionalText s) = .ok s := by
  cases s <;> rfl

/-- An optional integer is read as it was written. -/
theorem nullable_integer (n : Option Int) : nullable integer (Value.optionalInt n) = .ok n := by
  cases n <;> rfl

end ResumableUpload.Field
