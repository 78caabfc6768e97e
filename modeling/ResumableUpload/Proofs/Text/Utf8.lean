import Mathlib.Tactic.SplitIfs
import ResumableUpload.Text.Utf8

/-!
# What is read of UTF-8

Whatever the bytes of a text are, something is read of them: a byte that belongs to no character
shows as a replacement character. Characters that are written in UTF-8 are read back, whatever
follows them. An ASCII byte never belongs to a longer character: it completes what stands before it,
damaged or not.

## Main results

* `Utf8.decodeFrom_ne_nil` — bytes are not read as nothing.
* `Utf8.decodeFrom_encode` — whole characters, and what follows them.
* `Utf8.decode_toUTF8` — the characters of a text.
* `Utf8.decode_append_ascii` — what stands before an ASCII byte is read by itself.
-/

namespace ResumableUpload.Text.Utf8

/-- Bytes are read one at a time. -/
theorem decodeFrom_cons (pending : Option Pending) (b : UInt8) (bytes : List UInt8) :
    decodeFrom pending (b :: bytes) =
      (step pending b.toNat).1 ++ decodeFrom (step pending b.toNat).2 bytes := by
  cases pending <;> rfl

/-! ### Something is read -/

/-- The first byte of a character is a character, or there is more to come. -/
theorem first_some (b : Nat) : (first b).1 ≠ [] ∨ (first b).2 ≠ none := by
  rw [first]
  split_ifs <;> simp

/-- A further byte completes something, or there is more to come. -/
theorem step_some (pending : Option Pending) (b : Nat) :
    (step pending b).1 ≠ [] ∨ (step pending b).2 ≠ none := by
  cases pending with
  | none => exact first_some b
  | some p =>
    rw [step]
    by_cases continues : p.low ≤ b ∧ b ≤ p.high
    · simp only [if_pos continues]
      cases p.more <;> simp
    · simp [if_neg continues]

/-- Bytes, or a character that waits for bytes, are read as something. -/
theorem decodeFrom_ne_nil {pending : Option Pending} {bytes : List UInt8}
    (something : pending ≠ none ∨ bytes ≠ []) : decodeFrom pending bytes ≠ [] := by
  induction bytes generalizing pending with
  | nil =>
    cases pending with
    | none => simp at something
    | some p => simp [decodeFrom]
  | cons b bytes ih =>
    rw [decodeFrom_cons]
    rcases step_some pending b.toNat with chars | more
    · exact List.append_ne_nil_of_left_ne_nil chars _
    · exact List.append_ne_nil_of_right_ne_nil _ (ih (.inl more))

/-! ### One character -/

/-- The first of two bytes. -/
theorem first_two {b : Nat} (least : 0xC2 ≤ b) (most : b < 0xE0) :
    first b = ([], some ⟨0, 0x80, 0xBF, b - 0xC0⟩) := by
  rw [first, if_neg (by omega), if_neg (by omega), if_pos most]

/-- The first of three bytes. -/
theorem first_three {b : Nat} (least : 0xE0 ≤ b) (most : b < 0xF0) :
    first b = ([], some ⟨1, if b = 0xE0 then 0xA0 else 0x80, if b = 0xED then 0x9F else 0xBF,
      b - 0xE0⟩) := by
  rw [first, if_neg (by omega), if_neg (by omega), if_neg (by omega)]
  by_cases smallest : b = 0xE0
  · subst smallest
    rfl
  · by_cases surrogate : b = 0xED
    · subst surrogate
      rfl
    · simp only [if_neg smallest, if_neg surrogate, if_pos most]

/-- The first of four bytes. -/
theorem first_four {b : Nat} (least : 0xF0 ≤ b) (most : b < 0xF5) :
    first b = ([], some ⟨2, if b = 0xF0 then 0x90 else 0x80, if b = 0xF4 then 0x8F else 0xBF,
      b - 0xF0⟩) := by
  rw [first, if_neg (by omega), if_neg (by omega), if_neg (by omega), if_neg (by omega),
    if_neg (by omega), if_neg (by omega)]
  by_cases smallest : b = 0xF0
  · subst smallest
    rfl
  · by_cases greatest : b = 0xF4
    · subst greatest
      rfl
    · have fewer : b < 0xF4 := by omega
      simp only [if_neg smallest, if_neg greatest, if_pos fewer]

/-- The last byte of a character completes it. -/
theorem step_last {low high value b : Nat} (least : low ≤ b) (most : b ≤ high) :
    step (some ⟨0, low, high, value⟩) b = ([Char.ofNat (value * 64 + (b - 0x80))], none) := by
  rw [step, if_pos ⟨least, most⟩]

/-- A byte in the middle of a character adds its bits. -/
theorem step_more {more low high value b : Nat} (least : low ≤ b) (most : b ≤ high) :
    step (some ⟨more + 1, low, high, value⟩) b =
      ([], some ⟨more, 0x80, 0xBF, value * 64 + (b - 0x80)⟩) := by
  rw [step, if_pos ⟨least, most⟩]

/-- A character is read back from its bytes, and what follows it is read by itself. -/
theorem decodeFrom_utf8EncodeChar (c : Char) (bytes : List UInt8) :
    decodeFrom none (String.utf8EncodeChar c ++ bytes) = c :: decodeFrom none bytes := by
  obtain ⟨n, eq⟩ : ∃ n, c.val.toNat = n := ⟨_, rfl⟩
  have scalar : n < 0xD800 ∨ 0xDFFF < n ∧ n < 0x110000 := eq ▸ c.valid
  have same : Char.ofNat n = c := by rw [← eq]; exact Char.ofNat_toNat c
  -- A byte is read as the number that it was made of.
  have byte : ∀ m, m < 256 → (UInt8.ofNat m).toNat = m := fun m small => by
    rw [UInt8.toNat_ofNat', Nat.mod_eq_of_lt small]
  rw [String.utf8EncodeChar]
  simp only [eq]
  split_ifs with one two three
  · rw [List.cons_append, List.nil_append, decodeFrom_cons, byte n (by omega)]
    have ascii : step none n = ([Char.ofNat n], none) := by
      rw [step, first, if_pos (by omega)]
    rw [ascii, same]
    rfl
  · have value : (n / 64 % 32 + 192 - 0xC0) * 64 + (n % 64 + 128 - 0x80) = n := by omega
    simp only [List.cons_append, List.nil_append, decodeFrom_cons]
    rw [byte _ (by omega), byte _ (by omega), step, first_two (by omega) (by omega),
      step_last (by omega) (by omega), value, same]
    rfl
  · have value : ((n / 4096 % 16 + 224 - 0xE0) * 64 + (n / 64 % 64 + 128 - 0x80)) * 64 +
        (n % 64 + 128 - 0x80) = n := by omega
    simp only [List.cons_append, List.nil_append, decodeFrom_cons]
    rw [byte _ (by omega), byte _ (by omega), byte _ (by omega), step,
      first_three (by omega) (by omega),
      step_more (by split_ifs <;> omega) (by split_ifs <;> omega),
      step_last (by omega) (by omega), value, same]
    rfl
  · have value : (((n / 262144 % 8 + 240 - 0xF0) * 64 + (n / 4096 % 64 + 128 - 0x80)) * 64 +
        (n / 64 % 64 + 128 - 0x80)) * 64 + (n % 64 + 128 - 0x80) = n := by omega
    simp only [List.cons_append, List.nil_append, decodeFrom_cons]
    rw [byte _ (by omega), byte _ (by omega), byte _ (by omega), byte _ (by omega), step,
      first_four (by omega) (by omega), step_more (by split_ifs <;> omega) (by split_ifs <;> omega),
      step_more (by omega) (by omega), step_last (by omega) (by omega), value, same]
    rfl

/-! ### Rows of characters -/

/-- Characters are read back from their bytes, and what follows them is read by itself. -/
theorem decodeFrom_encode (cs : List Char) (bytes : List UInt8) :
    decodeFrom none (cs.flatMap String.utf8EncodeChar ++ bytes) = cs ++ decodeFrom none bytes := by
  induction cs with
  | nil => rfl
  | cons c cs ih =>
    rw [List.flatMap_cons, List.append_assoc, decodeFrom_utf8EncodeChar, ih, List.cons_append]

/-- The bytes of a text are those of its characters. -/
theorem toList_toUTF8 (s : String) :
    s.toUTF8.data.toList = s.toList.flatMap String.utf8EncodeChar := by
  rw [String.toUTF8_eq_toByteArray, ← String.utf8Encode_toList, List.utf8Encode]
  simp

/-- The characters of a text are read back from its bytes. -/
theorem decode_toUTF8 (s : String) : decode s.toUTF8.data.toList = s.toList := by
  have whole := decodeFrom_encode s.toList []
  rw [List.append_nil, ← toList_toUTF8] at whole
  rw [decode, whole]
  exact List.append_nil s.toList

/-! ### ASCII bytes -/

/-- The bytes that continue a character are not ASCII. -/
theorem low_of_step {pending : Option Pending} {b : Nat} {p : Pending}
    (h : (step pending b).2 = some p) : 0x80 ≤ p.low := by
  have begun : ∀ {p : Pending}, (first b).2 = some p → 0x80 ≤ p.low := by
    intro p h
    rw [first] at h
    split_ifs at h <;> obtain rfl := Option.some.inj h <;> simp
  cases pending with
  | none => exact begun h
  | some q =>
    rw [step] at h
    split_ifs at h with continues
    · cases more : q.more with
      | zero => simp [more] at h
      | succ more' =>
        simp only [more] at h
        obtain rfl := Option.some.inj h
        exact Nat.le_refl _
    · exact begun h

/-- An ASCII byte is a character by itself, and completes what is pending. -/
theorem decodeFrom_ascii {pending : Option Pending} (open? : ∀ p, pending = some p → 0x80 ≤ p.low)
    {b : UInt8} (ascii : b.toNat < 0x80) (bytes : List UInt8) :
    decodeFrom pending (b :: bytes) =
      decodeFrom pending [] ++ Char.ofNat b.toNat :: decode bytes := by
  have alone : first b.toNat = ([Char.ofNat b.toNat], none) := by rw [first, if_pos ascii]
  rw [decodeFrom_cons]
  cases pending with
  | none =>
    rw [step, alone]
    rfl
  | some p =>
    have low := open? p rfl
    rw [step, if_neg (by omega), alone]
    rfl

/-- What stands before an ASCII byte is read by itself. -/
theorem decodeFrom_append_ascii {pending : Option Pending}
    (open? : ∀ p, pending = some p → 0x80 ≤ p.low) (before : List UInt8) {b : UInt8}
    (ascii : b.toNat < 0x80) (bytes : List UInt8) :
    decodeFrom pending (before ++ b :: bytes) =
      decodeFrom pending before ++ Char.ofNat b.toNat :: decode bytes := by
  induction before generalizing pending with
  | nil => exact decodeFrom_ascii open? ascii bytes
  | cons b' before ih =>
    rw [List.cons_append, decodeFrom_cons, decodeFrom_cons, ih fun p h => low_of_step h,
      List.append_assoc]

/-- Bytes before an ASCII byte and those after it do not meet. -/
theorem decode_append_ascii (before : List UInt8) {b : UInt8} (ascii : b.toNat < 0x80)
    (bytes : List UInt8) :
    decode (before ++ b :: bytes) = decode before ++ Char.ofNat b.toNat :: decode bytes := by
  have nothing : ∀ p : Pending, none = some p → 0x80 ≤ p.low := fun _ h => nomatch h
  exact decodeFrom_append_ascii nothing before ascii bytes

end ResumableUpload.Text.Utf8
