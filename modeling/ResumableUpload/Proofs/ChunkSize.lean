import Mathlib.Order.Bounds.Basic
import ResumableUpload.ChunkSize

/-!
# Rounding up to a chunk size

The positive multiples of the chunk unit are the sizes that are accepted, and rounding a positive
size up gives the least of them that is not below it. All else that is known of rounding up follows
from that: accepted sizes stay as they are, a larger size is not rounded to a smaller one, and the
sum of two sizes is not rounded beyond the sum of what they are rounded to.

## Main definitions

* `ChunkSize.IsAccepted` — the sizes that are accepted as they are.

## Main results

* `ChunkSize.isAccepted_iff` — the accepted sizes.
* `ChunkSize.isLeast_of_align` — a size that was rounded up.
* `ChunkSize.align_least` — rounding up, for every size.
-/

namespace ResumableUpload.ChunkSize

/-- The sizes that are accepted as they are. -/
def IsAccepted (n : Int) : Prop := ∃ c : ChunkSize, validate (.int n) = .ok c ∧ (c.bytes : Int) = n

variable {a b n r q size : Int}

/-! ### Accepted sizes -/

/-- An integer is read as a chunk size if it is positive and a multiple of the chunk unit, and then
as itself. -/
theorem ofInt_eq_ok_iff {c : ChunkSize} : ofInt n = .ok c ↔ (c.bytes : Int) = n := by
  constructor
  · intro read
    rw [ofInt] at read
    split at read
    next valid =>
      obtain rfl := Except.ok.inj read
      exact Int.toNat_of_nonneg (by omega)
    · contradiction
  · rintro rfl
    exact ofInt_bytes c

/-- The accepted sizes are the positive multiples of the chunk unit. -/
theorem isAccepted_iff : IsAccepted n ↔ 0 < n ∧ (chunkUnit : Int) ∣ n := by
  constructor
  · rintro ⟨c, -, rfl⟩
    exact ⟨by exact_mod_cast c.pos, by exact_mod_cast Nat.dvd_of_mod_eq_zero c.aligned⟩
  · rintro ⟨pos, divides⟩
    obtain ⟨m, rfl⟩ := Int.eq_ofNat_of_zero_le pos.le
    have aligned : m % chunkUnit = 0 := Nat.mod_eq_zero_of_dvd (by exact_mod_cast divides)
    exact ⟨⟨m, by exact_mod_cast pos, aligned⟩, ofInt_eq_ok_iff.mpr rfl, rfl⟩

/-- What is accepted is accepted as it is. -/
theorem isAccepted_of_validate {c : ChunkSize} (h : validate (.int n) = .ok c) : IsAccepted n :=
  ⟨c, h, ofInt_eq_ok_iff.mp h⟩

/-! ### Rounding up -/

/-- A size is rounded up if it is positive. -/
theorem align_eq_ok_iff :
    align size = .ok r ↔ 0 < size ∧ r = -(-size / chunkUnit) * chunkUnit := by
  rw [align]
  split
  next small => simp only [reduceCtorEq, false_iff]; omega
  next large =>
    rw [Except.ok.injEq, eq_comm]
    exact (and_iff_right (by omega)).symm

/-- What a size is rounded up to lies less than a chunk unit above it, and is accepted. -/
theorem bounds_of_align (h : align size = .ok r) :
    size ≤ r ∧ r < size + chunkUnit ∧ IsAccepted r := by
  obtain ⟨pos, rfl⟩ := align_eq_ok_iff.mp h
  have above : size ≤ -(-size / chunkUnit) * chunkUnit := by simp only [chunkUnit]; omega
  have below : -(-size / chunkUnit) * chunkUnit < size + chunkUnit := by
    simp only [chunkUnit]
    omega
  exact ⟨above, below, isAccepted_iff.mpr ⟨lt_of_lt_of_le pos above, Int.dvd_mul_left _ _⟩⟩

/-- A size is rounded up to the least accepted size that is not below it. -/
theorem isLeast_of_align (h : align size = .ok r) : IsLeast {n | size ≤ n ∧ IsAccepted n} r := by
  obtain ⟨above, below, accepted⟩ := bounds_of_align h
  refine ⟨⟨above, accepted⟩, ?_⟩
  rintro n ⟨le, other⟩
  -- Two multiples of the chunk unit that are less than one apart are in order.
  obtain ⟨k, rfl⟩ := (isAccepted_iff.mp accepted).2
  obtain ⟨m, rfl⟩ := (isAccepted_iff.mp other).2
  simp only [chunkUnit] at *
  omega

/-- A positive size is rounded up. -/
theorem exists_align (pos : 0 < size) : ∃ r, align size = .ok r :=
  ⟨_, align_eq_ok_iff.mpr ⟨pos, rfl⟩⟩

/-- A size stays as it is just when it is accepted. -/
theorem align_eq_self_iff : align size = .ok size ↔ IsAccepted size := by
  constructor
  · exact fun h => (bounds_of_align h).2.2
  · intro accepted
    obtain ⟨r, rounded⟩ := exists_align (isAccepted_iff.mp accepted).1
    have least := isLeast_of_align rounded
    have same : r = size := le_antisymm (least.2 ⟨le_rfl, accepted⟩) least.1.1
    rw [rounded, same]

/-- The sum of accepted sizes is accepted. -/
theorem IsAccepted.add (ha : IsAccepted a) (hb : IsAccepted b) : IsAccepted (a + b) := by
  rw [isAccepted_iff] at *
  exact ⟨Int.add_pos ha.1 hb.1, Int.dvd_add ha.2 hb.2⟩

/-- Rounding up, for every size. A positive size is rounded up to the least accepted size that is
not below it, which is less than a chunk unit above it. So rounding up twice is rounding up once;
it keeps the order; it changes nothing just where the size is accepted; and a sum is not rounded
beyond the sum of what its parts are rounded to. Any other size is refused, and none is accepted. -/
theorem align_least :
    (∀ size, 0 < size → ∃ r, align size = .ok r ∧ IsAccepted r ∧ size ≤ r ∧ r < size + 262144 ∧
      IsLeast {n | size ≤ n ∧ ∃ c, validate (.int n) = .ok c} r) ∧
    (∀ size r, align size = .ok r → align r = .ok r) ∧
    (∀ a b r q, align a = .ok r → align b = .ok q → a ≤ b → r ≤ q) ∧
    (∀ size, align size = .ok size ↔ ∃ c, validate (.int size) = .ok c) ∧
    (∀ a b, 0 < a → 0 < b → ∃ r q t, align a = .ok r ∧ align b = .ok q ∧ align (a + b) = .ok t ∧
      t ≤ r + q) ∧
    (∀ size ≤ 0, align size = .error (.size size) ∧ ¬∃ c, validate (.int size) = .ok c) := by
  have valid_iff : ∀ n, (∃ c, validate (.int n) = .ok c) ↔ IsAccepted n := fun n =>
    ⟨fun ⟨_, h⟩ => isAccepted_of_validate h, fun ⟨c, h, _⟩ => ⟨c, h⟩⟩
  simp only [valid_iff]
  refine ⟨fun size pos => ?least, fun size r h => ?again, fun a b r q ha hb le => ?order,
    fun size => align_eq_self_iff, fun a b ha hb => ?sum, fun size small => ⟨?refused, ?none⟩⟩
  case least =>
    obtain ⟨r, rounded⟩ := exists_align pos
    obtain ⟨above, below, accepted⟩ := bounds_of_align rounded
    exact ⟨r, rounded, accepted, above, below, isLeast_of_align rounded⟩
  case again => exact align_eq_self_iff.mpr (bounds_of_align h).2.2
  case order =>
    obtain ⟨above, -, accepted⟩ := bounds_of_align hb
    exact (isLeast_of_align ha).2 ⟨le.trans above, accepted⟩
  case sum =>
    obtain ⟨r, hr⟩ := exists_align ha
    obtain ⟨q, hq⟩ := exists_align hb
    obtain ⟨t, ht⟩ := exists_align (Int.add_pos ha hb)
    obtain ⟨above, -, accepted⟩ := bounds_of_align hr
    obtain ⟨above', -, accepted'⟩ := bounds_of_align hq
    exact ⟨r, q, t, hr, hq, ht,
      (isLeast_of_align ht).2 ⟨Int.add_le_add above above', accepted.add accepted'⟩⟩
  case refused => rw [align, if_pos small]
  case none => exact fun accepted => absurd (isAccepted_iff.mp accepted).1 (by omega)

end ResumableUpload.ChunkSize
