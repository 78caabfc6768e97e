import ResumableUpload.Proofs.Text.Utf8
import ResumableUpload.Text.Escaping

/-!
# Escapes are undone

Characters that write a row of bytes are ASCII and stand for these bytes again, whichever of them
are escaped and in whichever case. So a text that is written in UTF-8 is read back.

## Main results

* `Percent.decodeChars_ne_nil` — what is decoded of characters is not nothing.
* `Percent.unescape_of_writes` — the bytes are read back.
* `Percent.decodeChars_toUTF8` — a text is read back.
* `Percent.decodeChars_append` — an ASCII character outside of escapes divides what is decoded.
* `Percent.characters?_decodePoints` — lone surrogates stay.
-/

namespace ResumableUpload.Text

/-- An unreserved character is ASCII, and begins no escape. -/
theorem ascii_of_isUnreserved {c : Char} (h : isUnreserved c = true) : c.toNat < 128 ∧ c ≠ '%' := by
  refine ⟨?_, fun sign => ?_⟩
  · simp only [isUnreserved, isAsciiLetter, isAsciiDigit, Bool.or_eq_true, Bool.and_eq_true,
      decide_eq_true_eq] at h
    rcases h with ((((letter | digit) | rfl) | rfl) | rfl) | rfl
    · omega
    · omega
    all_goals decide
  · subst sign
    contradiction

/-- A digit has its value, in either case. -/
theorem IsHexDigit.hexValue? {n : Nat} {c : Char} (h : IsHexDigit n c) (small : n < 16) :
    Text.hexValue? c = some n := by
  have upper : ∀ m : Fin 16, Text.hexValue? (upperHexDigit m) = some m.val := by decide
  rcases h with rfl | rfl
  · exact hexValue?_hexDigit small
  · exact upper ⟨n, small⟩

/-- A character that has a value is a digit or one of twelve letters. -/
theorem hexValue?_bounds {c : Char} {n : Nat} (h : hexValue? c = some n) :
    48 ≤ c.toNat ∧ c.toNat ≤ 57 ∨ 97 ≤ c.toNat ∧ c.toNat ≤ 102 ∨ 65 ≤ c.toNat ∧ c.toNat ≤ 70 := by
  rw [hexValue?] at h
  split at h
  next digit => exact .inl digit
  next =>
    split at h
    next lower => exact .inr (.inl lower)
    next =>
      split at h
      next upper => exact .inr (.inr upper)
      next => contradiction

namespace Percent

variable {plain : Char → Bool} {bytes : List UInt8} {written : List Char}

/-! ### Something is decoded -/

/-- Characters stand for bytes. -/
theorem unescape_ne_nil {cs : List Char} (ne : cs ≠ []) : unescape cs ≠ [] := by
  fun_cases unescape cs with
  | case1 => contradiction
  | case2 | case3 | case4 | case5 | case6 => simp

/-- The characters of a run that is not empty. -/
theorem decodeRun_ne_nil {run : List Char} (ne : run ≠ []) : decodeRun run ≠ [] :=
  Utf8.decodeFrom_ne_nil (.inr (unescape_ne_nil ne))

/-- The characters that follow an unfinished run, and the run itself. -/
theorem decodeFrom_ne_nil {run cs : List Char} (something : run ≠ [] ∨ cs ≠ []) :
    decodeFrom run cs ≠ [] := by
  induction cs generalizing run with
  | nil =>
    rw [decodeFrom]
    exact decodeRun_ne_nil (by simpa using something)
  | cons c cs ih =>
    rw [decodeFrom]
    by_cases ascii : c.toNat < 128
    · rw [if_pos ascii]
      exact ih (.inl (List.cons_ne_nil c run))
    · rw [if_neg ascii]
      simp

/-- What is decoded of characters is not nothing. -/
theorem decodeChars_ne_nil {cs : List Char} (ne : cs ≠ []) : decodeChars cs ≠ [] :=
  decodeFrom_ne_nil (.inr ne)

/-! ### Reading -/

/-- A character that begins no escape stands for its own byte. -/
theorem unescape_cons {c : Char} (ne : c ≠ '%') (rest : List Char) :
    unescape (c :: rest) = UInt8.ofNat c.toNat :: unescape rest := by
  match rest with
  | [] | [_] => rfl
  | _ :: _ :: _ => rw [unescape, if_neg ne]

/-- An escape stands for the byte that it writes. -/
theorem unescape_escape {a b : Char} {byte : UInt8} (h : byte? a b = some byte)
    (rest : List Char) : unescape ('%' :: a :: b :: rest) = byte :: unescape rest := by
  rw [unescape, if_pos rfl, h]

/-- The byte of two digits. -/
theorem byte?_of_isHexDigit {byte : UInt8} {high low : Char}
    (upper : IsHexDigit (byte.toNat / 16) high) (lower : IsHexDigit (byte.toNat % 16) low) :
    byte? high low = some byte := by
  have bound : byte.toNat < 256 := byte.toNat_lt
  have whole : 16 * (byte.toNat / 16) + byte.toNat % 16 = byte.toNat := by omega
  have read : byte? high low =
      some (UInt8.ofNat (16 * (byte.toNat / 16) + byte.toNat % 16)) := by
    rw [byte?, upper.hexValue? (by omega), lower.hexValue? (by omega)]
    rfl
  rw [read, whole, UInt8.ofNat_toNat]

/-- A byte is the number of the character of its number. -/
theorem toNat_ofNat_byte (byte : UInt8) : (Char.ofNat byte.toNat).toNat = byte.toNat := by
  have bound : byte.toNat < 256 := byte.toNat_lt
  have scalar : byte.toNat.isValidChar := .inl (by omega)
  rw [Char.ofNat, dif_pos scalar]
  rfl

/-- What is written is read back as bytes. -/
theorem unescape_of_writes (writes : Writes plain bytes written)
    (kept : ∀ c, plain c = true → c ≠ '%') : unescape written = bytes := by
  induction writes with
  | nil => rfl
  | @plain byte bytes written isPlain rest ih =>
    rw [unescape_cons (kept _ isPlain), ih, toNat_ofNat_byte, UInt8.ofNat_toNat]
  | escaped upper lower rest ih =>
    rw [unescape_escape (byte?_of_isHexDigit upper lower), ih]

/-- A run of ASCII characters is read in one piece. -/
theorem decodeFrom_of_ascii {run cs : List Char} (ascii : ∀ c ∈ cs, c.toNat < 128) :
    decodeFrom run cs = decodeRun (run.reverse ++ cs) := by
  induction cs generalizing run with
  | nil => rw [decodeFrom, List.append_nil]
  | cons c cs ih =>
    rw [decodeFrom, if_pos (ascii c List.mem_cons_self),
      ih fun d member => ascii d (List.mem_cons_of_mem c member), List.reverse_cons,
      List.append_assoc, List.singleton_append]

/-! ### What is written -/

namespace Writes

/-- Plain characters may be more. -/
theorem mono {more : Char → Bool} (writes : Writes plain bytes written)
    (le : ∀ c, plain c = true → more c = true) : Writes more bytes written := by
  induction writes with
  | nil => exact .nil
  | plain isPlain rest ih => exact .plain (le _ isPlain) ih
  | escaped upper lower rest ih => exact .escaped upper lower ih

/-- Every character is plain or belongs to an escape. -/
theorem forall_mem {holds : Char → Prop} (writes : Writes plain bytes written)
    (plains : ∀ c, plain c = true → holds c) (sign : holds '%')
    (digits : ∀ c n, hexValue? c = some n → holds c) : ∀ c ∈ written, holds c := by
  induction writes with
  | nil => exact fun c member => nomatch member
  | plain isPlain rest ih => exact List.forall_mem_cons.mpr ⟨plains _ isPlain, ih⟩
  | @escaped byte bytes high low written upper lower rest ih =>
    have bound : byte.toNat < 256 := byte.toNat_lt
    refine List.forall_mem_cons.mpr ⟨sign, List.forall_mem_cons.mpr ⟨?_, ?_⟩⟩
    · exact digits high _ (upper.hexValue? (by omega))
    · exact List.forall_mem_cons.mpr ⟨digits low _ (lower.hexValue? (by omega)), ih⟩

/-- A character that is neither plain nor part of an escape is not written. -/
theorem notMem {c : Char} (writes : Writes plain bytes written) (notPlain : plain c = false)
    (sign : c ≠ '%') (noDigit : hexValue? c = none) : c ∉ written := by
  have others : ∀ d ∈ written, d ≠ c := by
    refine writes.forall_mem (fun d isPlain => ?_) sign.symm fun d n value => ?_
    · rintro rfl
      exact Bool.false_ne_true (notPlain.symm.trans isPlain)
    · rintro rfl
      rw [noDigit] at value
      exact nomatch value
  exact fun member => others c member rfl

/-- If the plain characters are ASCII, so is everything that is written. -/
theorem ascii (writes : Writes plain bytes written)
    (plains : ∀ c, plain c = true → c.toNat < 128) : ∀ c ∈ written, c.toNat < 128 := by
  refine writes.forall_mem plains (by decide) fun c n value => ?_
  have bounds := hexValue?_bounds value
  omega

/-- Where a character stands that no escape holds, the bytes divide. -/
theorem split {before after : List Char} {c : Char} (writes : Writes plain bytes written)
    (divides : written = before ++ c :: after) (sign : c ≠ '%') (noDigit : hexValue? c = none) :
    ∃ bytesBefore bytesAfter, bytes = bytesBefore ++ UInt8.ofNat c.toNat :: bytesAfter ∧
      Writes plain bytesBefore before ∧ Writes plain bytesAfter after := by
  induction writes generalizing before with
  | nil => simp at divides
  | @plain byte bytes written isPlain rest ih =>
    cases before with
    | nil =>
      obtain ⟨rfl, rfl⟩ := List.cons.inj divides
      refine ⟨[], bytes, ?_, .nil, rest⟩
      rw [toNat_ofNat_byte, UInt8.ofNat_toNat, List.nil_append]
    | cons d before =>
      obtain ⟨rfl, remaining⟩ := List.cons.inj divides
      obtain ⟨bytesBefore, bytesAfter, rfl, first, second⟩ := ih remaining
      exact ⟨byte :: bytesBefore, bytesAfter, rfl, .plain isPlain first, second⟩
  | @escaped byte bytes high low written upper lower rest ih =>
    have bound : byte.toNat < 256 := byte.toNat_lt
    have highValue := upper.hexValue? (by omega)
    have lowValue := lower.hexValue? (by omega)
    -- The character comes after the escape, since it is none of the three that make it up.
    rcases before with - | ⟨d, - | ⟨d', - | ⟨d'', before⟩⟩⟩
    · exact absurd (List.cons.inj divides).1.symm sign
    · simp only [List.cons_append, List.nil_append, List.cons.injEq] at divides
      obtain ⟨-, rfl, -⟩ := divides
      rw [noDigit] at highValue
      contradiction
    · simp only [List.cons_append, List.nil_append, List.cons.injEq] at divides
      obtain ⟨-, -, rfl, -⟩ := divides
      rw [noDigit] at lowValue
      contradiction
    · simp only [List.cons_append, List.cons.injEq] at divides
      obtain ⟨rfl, rfl, rfl, remaining⟩ := divides
      obtain ⟨bytesBefore, bytesAfter, rfl, first, second⟩ := ih remaining
      exact ⟨byte :: bytesBefore, bytesAfter, rfl, .escaped upper lower first, second⟩

end Writes

/-! ### Round trips -/

/-- What is written over ASCII characters is decoded in one piece. -/
theorem decodeChars_of_writes (writes : Writes plain bytes written)
    (plains : ∀ c, plain c = true → c.toNat < 128 ∧ c ≠ '%') :
    decodeChars written = Utf8.decode bytes := by
  rw [decodeChars, decodeFrom_of_ascii (writes.ascii fun c h => (plains c h).1), decodeRun,
    List.reverse_nil, List.nil_append, unescape_of_writes writes fun c h => (plains c h).2]

/-- A text is read back. -/
theorem decodeChars_toUTF8 {s : String} (writes : Writes plain s.toUTF8.data.toList written)
    (plains : ∀ c, plain c = true → c.toNat < 128 ∧ c ≠ '%') :
    decodeChars written = s.toList := by
  rw [decodeChars_of_writes writes plains, Utf8.decode_toUTF8]

/-- What stands before an ASCII character that no escape holds is decoded by itself, and so is what
stands after it. -/
theorem decodeChars_append {before after : List Char} {c : Char}
    (writes : Writes plain bytes (before ++ c :: after))
    (plains : ∀ c, plain c = true → c.toNat < 128 ∧ c ≠ '%')
    (ascii : c.toNat < 128) (sign : c ≠ '%') (noDigit : hexValue? c = none) :
    decodeChars (before ++ c :: after) = decodeChars before ++ c :: decodeChars after := by
  obtain ⟨bytesBefore, bytesAfter, rfl, first, second⟩ := writes.split rfl sign noDigit
  have byte : (UInt8.ofNat c.toNat).toNat = c.toNat := by
    rw [UInt8.toNat_ofNat', Nat.mod_eq_of_lt (by omega)]
  rw [decodeChars_of_writes writes plains, decodeChars_of_writes first plains,
    decodeChars_of_writes second plains, Utf8.decode_append_ascii _ (by omega), byte,
    Char.ofNat_toNat]

/-- The writing that escapes no byte without need is one, in either case. -/
theorem writes_encode {digit : Nat → Char} (digits : ∀ n, n < 16 → IsHexDigit n (digit n))
    (plain : Char → Bool) (s : String) :
    Writes plain s.toUTF8.data.toList (encode digit plain s).toList := by
  rw [encode, String.toList_ofList]
  induction s.toUTF8.data.toList with
  | nil => exact .nil
  | cons byte bytes ih =>
    have bound : byte.toNat < 256 := byte.toNat_lt
    rw [List.flatMap_cons, encodeByte]
    split
    next isPlain => exact .plain isPlain ih
    next => exact .escaped (digits _ (by omega)) (digits _ (by omega)) ih

/-! ### Lone surrogates -/

/-- The points that follow unfinished characters, and these characters. -/
theorem decodePointsFrom_ne_nil {front : List Char} {points : List Point}
    (something : front ≠ [] ∨ points ≠ []) : decodePointsFrom front points ≠ [] := by
  induction points generalizing front with
  | nil =>
    have front_ne : front.reverse ≠ [] := by simpa using something
    simpa [decodePointsFrom] using decodeChars_ne_nil front_ne
  | cons point points ih =>
    cases point with
    | char c => exact ih (.inl (List.cons_ne_nil c front))
    | surrogate number => simp [decodePointsFrom]

/-- Nothing is decoded only of nothing. -/
theorem decodePoints_eq_nil_iff {points : List Point} : decodePoints points = [] ↔ points = [] := by
  constructor
  · intro nothing
    cases points with
    | nil => rfl
    | cons point points =>
      exact absurd nothing (decodePointsFrom_ne_nil (.inr (List.cons_ne_nil point points)))
  · rintro rfl
    rfl

/-- The characters decoded of points are decoded of their characters. -/
theorem characters?_decodePointsFrom (front : List Char) (points : List Point) :
    Point.characters? (decodePointsFrom front points) =
      (Point.characters? points).map fun cs => decodeChars (front.reverse ++ cs) := by
  induction points generalizing front with
  | nil => simp [decodePointsFrom, Point.characters?]
  | cons point points ih =>
    cases point with
    | char c =>
      rw [decodePointsFrom, ih, Point.characters?, Option.map_map]
      simp [Function.comp_def]
    | surrogate number =>
      rw [decodePointsFrom, Point.characters?_append_surrogate, Point.characters?, Option.map_none]

/-- A row of points holds surrogates when its escapes are decoded just when it does before. -/
theorem characters?_decodePoints (points : List Point) :
    Point.characters? (decodePoints points) = (Point.characters? points).map decodeChars :=
  characters?_decodePointsFrom [] points

end Percent

end ResumableUpload.Text
