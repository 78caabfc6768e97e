import Mathlib.Data.List.Basic
import Mathlib.Data.List.TakeWhile
import ResumableUpload.Number.Numeral

/-!
# Integers as numerals

An integer is written with as many digits as it needs, behind a minus sign if it is negative. What
is written is a numeral that begins with no superfluous zero, and it stands for the integer. How
long it is tells how large the integer is.

## Main results

* `Numeral.ofChars?_toString` — the numeral of an integer.
* `Numeral.isOverlong_toString` — which integers have too many digits.
-/

namespace ResumableUpload.Numeral

/-! ### Digits -/

/-- A digit is a digit of ASCII. -/
theorem isAsciiDigit_of_mem {n : Nat} {c : Char} (h : c ∈ Nat.toDigits 10 n) :
    Text.isAsciiDigit c = true := by
  have digit := Nat.isDigit_of_mem_toDigits (by decide) (by decide) h
  rw [Char.isDigit_iff_toNat] at digit
  rw [Text.isAsciiDigit, Bool.and_eq_true, decide_eq_true_iff, decide_eq_true_iff]
  exact digit

/-- A positive number does not begin with a zero. -/
theorem head?_toDigits_ne {n : Nat} (pos : 0 < n) : (Nat.toDigits 10 n).head? ≠ some '0' := by
  induction n using Nat.strongRecOn with
  | ind n ih =>
    by_cases small : n < 10
    · rw [Nat.toDigits_of_lt_base small]
      have all : ∀ m : Fin 10, 0 < m.val → [m.val.digitChar].head? ≠ some '0' := by decide
      exact all ⟨n, small⟩ pos
    · rw [Nat.toDigits_of_base_le (by decide) (by omega),
        List.head?_append_of_ne_nil _ Nat.toDigits_ne_nil]
      exact ih (n / 10) (by omega) (by omega)

/-- The digits of a number stand for it. -/
theorem asciiValue_toDigits (n : Nat) : Text.asciiValue (Nat.toDigits 10 n) = n :=
  Nat.ofDigitChars_ten_toDigits

/-- An integer is written as its digits behind its sign. -/
theorem toList_toString (n : Int) :
    (toString n).toList = (if n < 0 then ['-'] else []) ++ Nat.toDigits 10 n.natAbs := by
  rw [Int.toString_eq_repr, Int.repr_eq_if]
  by_cases negative : n < 0
  · have magnitude : (-n).toNat = n.natAbs := by omega
    rw [if_neg (by omega), if_pos negative, magnitude]
    simp
  · have magnitude : n.toNat = n.natAbs := by omega
    rw [if_pos (by omega), if_neg negative, magnitude]
    simp

/-- An integer is written with digits and a minus sign. -/
theorem eq_minus_or_digit {n : Int} {c : Char} (h : c ∈ (toString n).toList) :
    c = '-' ∨ Text.isAsciiDigit c = true := by
  rw [toList_toString, List.mem_append] at h
  rcases h with sign | digit
  · left
    by_cases negative : n < 0
    · simpa [negative] using sign
    · simp [negative] at sign
  · exact .inr (isAsciiDigit_of_mem digit)

/-! ### Numerals -/

/-- The sign of a written integer, and its digits. -/
theorem splitSign_toString (n : Int) :
    splitSign (toString n).toList = (decide (n < 0), Nat.toDigits 10 n.natAbs) := by
  rw [toList_toString]
  by_cases negative : n < 0
  · rw [if_pos negative, decide_eq_true negative]
    rfl
  · rw [if_neg negative, decide_eq_false negative, List.nil_append]
    unfold splitSign
    split
    next rest eq =>
      have minus : '-' ∈ Nat.toDigits 10 n.natAbs := by simp [eq]
      exact absurd (isAsciiDigit_of_mem minus) (by decide)
    · rfl

/-- All digits of a number are taken as digits. -/
theorem takeWhile_toDigits (n : Nat) :
    (Nat.toDigits 10 n).takeWhile Text.isAsciiDigit = Nat.toDigits 10 n :=
  List.takeWhile_eq_self_iff.mpr fun _ => isAsciiDigit_of_mem

/-- Nothing follows the digits of a number. -/
theorem dropWhile_toDigits (n : Nat) : (Nat.toDigits 10 n).dropWhile Text.isAsciiDigit = [] :=
  List.dropWhile_eq_nil_iff.mpr fun _ => isAsciiDigit_of_mem

/-- What is written for an integer is its numeral. -/
theorem ofChars?_toString (n : Int) :
    ofChars? (toString n).toList = some ⟨decide (n < 0), Nat.toDigits 10 n.natAbs, none, none⟩ := by
  rw [ofChars?]
  rw [splitSign_toString]
  dsimp only
  rw [takeWhile_toDigits, dropWhile_toDigits]
  cases digits : Nat.toDigits 10 n.natAbs with
  | nil => exact absurd digits Nat.toDigits_ne_nil
  | cons d ds =>
    have plain : ¬(d = '0' ∧ ds ≠ []) := by
      rintro ⟨rfl, more⟩
      by_cases zero : n.natAbs = 0
      · rw [zero, Nat.toDigits_zero] at digits
        exact more (List.cons.inj digits).2.symm
      · exact head?_toDigits_ne (by omega : 0 < n.natAbs) (by rw [digits, List.head?_cons])
    simp only [if_neg plain, readTail?]

/-- The numeral of an integer stands for it. -/
theorem toInt_digits (n : Int) :
    toInt ⟨decide (n < 0), Nat.toDigits 10 n.natAbs, none, none⟩ = n := by
  simp only [toInt, asciiValue_toDigits]
  by_cases negative : n < 0
  · rw [decide_eq_true negative, if_pos rfl]
    omega
  · rw [decide_eq_false negative, if_neg Bool.false_ne_true]
    omega

/-- An integer has too many digits just when it is too large. -/
theorem isOverlong_toString {limit : Nat} (pos : 0 < limit) (n : Int) :
    isOverlong limit (toString n).toList = decide (tenTo limit ≤ n.natAbs) := by
  rw [isOverlong]
  rw [splitSign_toString]
  dsimp only
  rw [takeWhile_toDigits]
  have long : limit < (Nat.toDigits 10 n.natAbs).length ↔ tenTo limit ≤ n.natAbs := by
    have short := Nat.length_toDigits_le_iff (n := n.natAbs) (by decide : 1 < 10) pos
    rw [← Nat.not_le, short, Nat.not_lt, tenTo, Int.toNat_natCast, Nat.pow_eq]
  by_cases zero : n.natAbs = 0
  · have many : ¬ tenTo limit ≤ 0 := Nat.not_le.mpr (tenTo_pos limit)
    rw [zero, Nat.toDigits_zero, decide_eq_false many]
    simp
  · simp only [long, head?_toDigits_ne (by omega : 0 < n.natAbs), ne_eq, not_false_eq_true,
      decide_true, Bool.true_and]

end ResumableUpload.Numeral
