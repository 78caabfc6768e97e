import Mathlib.Data.List.TakeWhile
import ResumableUpload.Proofs.Number.Numeral
import ResumableUpload.Text.Blank
import ResumableUpload.Text.DecimalDigit

/-!
# Digits and blanks

No character is both a decimal digit and a blank, so that a row of digits ends where blanks begin.
The ten digits of ASCII are decimal digits, and a number that is written with them is read back.

## Main results

* `not_isDecimalDigit_of_isBlank` — blanks are no digits.
* `digitsValue_toDigits` — a number is read back from its digits.
* `span_append`, `trimBy_between` — where rows end, and what stands between them.
-/

namespace ResumableUpload.Text

variable {c : Char}

/-! ### Code points -/

/-- A decimal digit belongs to the run of a zero. -/
theorem exists_zero_of_isDecimalDigit (h : isDecimalDigit c = true) :
    ∃ z ∈ digitZeros, z ≤ c.toNat ∧ c.toNat < z + 10 := by
  rw [isDecimalDigit, digitValue?, Option.isSome_map, Option.isSome_iff_exists] at h
  obtain ⟨z, found⟩ := h
  have member := List.mem_of_find?_eq_some found
  have run := List.find?_some found
  simp only [Bool.and_eq_true, decide_eq_true_eq] at run
  exact ⟨z, member, run⟩

/-- A code point in a list of ranges lies in one of them. -/
theorem exists_range_of_inRanges {ranges : List (Nat × Nat)} {n : Nat}
    (h : inRanges ranges n = true) : ∃ range ∈ ranges, range.1 ≤ n ∧ n ≤ range.2 := by
  induction ranges with
  | nil => contradiction
  | cons range ranges ih =>
    rw [inRanges] at h
    split at h
    · contradiction
    next above =>
      split at h
      next below => exact ⟨range, List.mem_cons_self, by omega, below⟩
      next =>
        obtain ⟨later, member, inside⟩ := ih h
        exact ⟨later, List.mem_cons_of_mem range member, inside⟩

/-- A blank lies in a range of the white space, or it is an information separator. -/
theorem exists_range_of_isBlank (h : isBlank c = true) :
    ∃ range ∈ (0x1C, 0x1F) :: whiteSpaceRanges, range.1 ≤ c.toNat ∧ c.toNat ≤ range.2 := by
  simp only [isBlank, Bool.or_eq_true, Bool.and_eq_true, decide_eq_true_eq] at h
  rcases h with white | separator
  · obtain ⟨range, member, inside⟩ := exists_range_of_inRanges white
    exact ⟨range, List.mem_cons_of_mem _ member, inside⟩
  · exact ⟨_, List.mem_cons_self, separator⟩

/-- Blanks are no digits. -/
theorem not_isDecimalDigit_of_isBlank (h : isBlank c = true) : isDecimalDigit c = false := by
  -- No range of blanks meets a run of digits, as the two tables show.
  have apart : ((0x1C, 0x1F) :: whiteSpaceRanges).all (fun range => digitZeros.all fun z =>
      range.2 < z || z + 10 ≤ range.1) = true := by decide
  by_contra digit
  obtain ⟨range, member, inside⟩ := exists_range_of_isBlank h
  rw [Bool.not_eq_false] at digit
  obtain ⟨z, zero, run⟩ := exists_zero_of_isDecimalDigit digit
  have apart := List.all_eq_true.mp (List.all_eq_true.mp apart range member) z zero
  simp only [Bool.or_eq_true, decide_eq_true_eq] at apart
  omega

/-! ### The digits of ASCII -/

/-- A digit of ASCII has its value. -/
theorem digitValue?_of_isAsciiDigit (h : isAsciiDigit c = true) :
    digitValue? c = some (c.toNat - 48) := by
  have bounds : 48 ≤ c.toNat ∧ c.toNat < 48 + 10 := by
    simp only [isAsciiDigit, Bool.and_eq_true, decide_eq_true_eq] at h
    omega
  rw [digitValue?, digitZeros, List.find?_cons_of_pos (by simpa using bounds)]
  rfl

/-- A digit of ASCII is a decimal digit. -/
theorem isDecimalDigit_of_isAsciiDigit (h : isAsciiDigit c = true) : isDecimalDigit c = true := by
  rw [isDecimalDigit, digitValue?_of_isAsciiDigit h]
  rfl

/-- A number is read back from its digits. -/
theorem digitsValue_toDigits (n : Nat) : digitsValue (Nat.toDigits 10 n) = n := by
  have same : digitsValue (Nat.toDigits 10 n) = asciiValue (Nat.toDigits 10 n) := by
    refine List.foldl_ext _ _ 0 fun m c member => ?_
    rw [digitValue?_of_isAsciiDigit (Numeral.isAsciiDigit_of_mem member), Option.getD_some]
  rw [same, Numeral.asciiValue_toDigits]

/-! ### Rows of characters -/

/-- A row of characters of a set ends where another character stands. -/
theorem span_append {p : Char → Bool} {front rest : List Char} (all : ∀ c ∈ front, p c = true)
    (stop : ∀ c, rest.head? = some c → p c = false) :
    (front ++ rest).takeWhile p = front ∧ (front ++ rest).dropWhile p = rest := by
  rw [List.takeWhile_append_of_pos all, List.dropWhile_append_of_pos all]
  cases rest with
  | nil => simp
  | cons c rest =>
    have other : p c = false := stop c rfl
    simp [other]

/-- What stands between characters of a set is left when these are trimmed, if it neither begins
nor ends with one. -/
theorem trimBy_between {p : Char → Bool} {before core after : List Char}
    (front : ∀ c ∈ before, p c = true) (back : ∀ c ∈ after, p c = true) (ne : core ≠ [])
    (first : ∀ c, core.head? = some c → p c = false)
    (last : ∀ c, core.getLast? = some c → p c = false) :
    trimBy p (before ++ (core ++ after)) = core := by
  have led : (before ++ (core ++ after)).dropWhile p = core ++ after :=
    (span_append front (by rwa [List.head?_append_of_ne_nil _ ne])).2
  have ended : (after.reverse ++ core.reverse).dropWhile p = core.reverse :=
    (span_append (by simpa using back) (by rwa [List.head?_reverse])).2
  rw [trimBy, led, List.reverse_append, ended, List.reverse_reverse]

end ResumableUpload.Text
