import ResumableUpload.Base64

/-!
# Reading what was written in base64

The text of a byte string is read back as that byte string. Writing and reading go group by group:
the characters of a group are read at places 0 to 3, and the bits that are left over in between are
those of the bytes that the group stands for.

## Main definitions

* `Base64.symbols` — the text of a byte string as a row of characters.

## Main results

* `Base64.decode_encode` — the byte string that was written is read.
-/

namespace ResumableUpload.Base64

/-! ### Characters -/

/-- The character of a six-bit value has that value. -/
theorem symbolValue?_symbol {n : Nat} (h : n < 64) : symbolValue? (symbol n) = some n := by
  have all : ∀ m : Fin 64, symbolValue? (symbol m) = some m.val := by decide
  exact all ⟨n, h⟩

/-- The character of a six-bit value is no padding. -/
theorem symbol_ne_pad {n : Nat} (h : n < 64) : symbol n ≠ '=' := by
  have all : ∀ m : Fin 64, symbol m ≠ '=' := by decide
  exact all ⟨n, h⟩

/-- The character of a six-bit value is of ASCII. -/
theorem symbol_lt {n : Nat} (h : n < 64) : (symbol n).toNat < 128 := by
  have all : ∀ m : Fin 64, (symbol m).toNat < 128 := by decide
  exact all ⟨n, h⟩

/-- The text of a row of bytes as a row of characters. -/
def symbols : List UInt8 → List Char
  | [] => []
  | [a] =>
    let n := a.toNat * 16
    [symbol (n / 64), symbol (n % 64), '=', '=']
  | [a, b] =>
    let n := (a.toNat * 256 + b.toNat) * 4
    [symbol (n / 4096), symbol (n / 64 % 64), symbol (n % 64), '=']
  | a :: b :: c :: rest =>
    let n := (a.toNat * 256 + b.toNat) * 256 + c.toNat
    symbol (n / 262144) :: symbol (n / 4096 % 64) :: symbol (n / 64 % 64) :: symbol (n % 64) ::
      symbols rest

/-- The text of the remaining bytes follows what is already written. -/
theorem toList_encodeInto (written : String) (bs : List UInt8) :
    (encodeInto written bs).toList = written.toList ++ symbols bs := by
  fun_induction encodeInto written bs with
  | case1 written => simp [symbols]
  | case2 written a n => simp [symbols, n]
  | case3 written a b n => simp [symbols, n]
  | case4 written a b c rest n ih =>
    rw [ih]
    simp [symbols, n]

/-- Every character that is written is of ASCII. -/
theorem all_symbols (bs : List UInt8) : (symbols bs).all (fun c => c.toNat < 128) = true := by
  fun_induction symbols bs with
  | case1 => rfl
  | case2 a n =>
    have := UInt8.toNat_lt a
    have first := symbol_lt (show n / 64 < 64 by omega)
    have second := symbol_lt (show n % 64 < 64 by omega)
    simp [first, second]
  | case3 a b n =>
    have := UInt8.toNat_lt a
    have := UInt8.toNat_lt b
    have first := symbol_lt (show n / 4096 < 64 by omega)
    have second := symbol_lt (show n / 64 % 64 < 64 by omega)
    have third := symbol_lt (show n % 64 < 64 by omega)
    simp [first, second, third]
  | case4 a b c rest n ih =>
    have := UInt8.toNat_lt a
    have := UInt8.toNat_lt b
    have := UInt8.toNat_lt c
    have first := symbol_lt (show n / 262144 < 64 by omega)
    have second := symbol_lt (show n / 4096 % 64 < 64 by omega)
    have third := symbol_lt (show n / 64 % 64 < 64 by omega)
    have fourth := symbol_lt (show n % 64 < 64 by omega)
    simp only [List.all_cons, ih, first, second, third, fourth, decide_true, Bool.and_self]

/-- No text begins with padding. -/
theorem head?_symbols (bs : List UInt8) : (symbols bs).head? ≠ some '=' := by
  fun_cases symbols bs with
  | case1 => simp
  | case2 a n =>
    have := UInt8.toNat_lt a
    simpa using symbol_ne_pad (show n / 64 < 64 by omega)
  | case3 a b n =>
    have := UInt8.toNat_lt a
    have := UInt8.toNat_lt b
    simpa using symbol_ne_pad (show n / 4096 < 64 by omega)
  | case4 a b c rest n =>
    have := UInt8.toNat_lt a
    have := UInt8.toNat_lt b
    have := UInt8.toNat_lt c
    simpa using symbol_ne_pad (show n / 262144 < 64 by omega)

/-! ### Reading groups -/

/-- A character of data is taken as its value. -/
theorem scanFrom_symbol (scan : Scan) {n : Nat} (h : n < 64) (unpadded : scan.padded = false)
    (cs : List Char) : scanFrom scan (symbol n :: cs) = scanFrom (scan.take n) cs := by
  rw [scanFrom, if_neg (symbol_ne_pad h), symbolValue?_symbol h]
  simp [unpadded]

/-- Reading the text of a row of bytes adds these bytes. -/
theorem scanFrom_symbols (done : ByteArray) (bs : List UInt8) :
    scanFrom ⟨done, 0, 0, 0, false⟩ (symbols bs) = .ok (bs.foldl ByteArray.push done) := by
  fun_induction symbols bs generalizing done with
  | case1 => rfl
  | case2 a n =>
    have := UInt8.toNat_lt a
    rw [scanFrom_symbol _ (by omega) rfl, scanFrom_symbol _ (by omega) rfl]
    have byte : n / 64 * 4 + n % 64 / 16 = a.toNat := by omega
    simp [Scan.take, Scan.emit, scanFrom, byte]
  | case3 a b n =>
    have := UInt8.toNat_lt a
    have := UInt8.toNat_lt b
    rw [scanFrom_symbol _ (by omega) rfl, scanFrom_symbol _ (by omega) rfl,
      scanFrom_symbol _ (by omega) rfl]
    have byte₁ : n / 4096 * 4 + n / 64 % 64 / 16 = a.toNat := by omega
    have byte₂ : n / 64 % 64 % 16 * 16 + n % 64 / 4 = b.toNat := by omega
    simp only [Scan.take, Scan.emit, byte₁, byte₂, UInt8.ofNat_toNat]
    simp [scanFrom]
  | case4 a b c rest n ih =>
    have := UInt8.toNat_lt a
    have := UInt8.toNat_lt b
    have := UInt8.toNat_lt c
    rw [scanFrom_symbol _ (by omega) rfl, scanFrom_symbol _ (by omega) rfl,
      scanFrom_symbol _ (by omega) rfl, scanFrom_symbol _ (by omega) rfl]
    have byte₁ : n / 262144 * 4 + n / 4096 % 64 / 16 = a.toNat := by omega
    have byte₂ : n / 4096 % 64 % 16 * 16 + n / 64 % 64 / 4 = b.toNat := by omega
    have byte₃ : n / 64 % 64 % 4 * 64 + n % 64 = c.toNat := by omega
    simp only [Scan.take, Scan.emit, byte₁, byte₂, byte₃, UInt8.ofNat_toNat]
    exact ih _

/-- Pushing bytes one by one appends them. -/
theorem data_foldl_push (done : ByteArray) (bs : List UInt8) :
    (bs.foldl ByteArray.push done).data = done.data ++ bs.toArray := by
  induction bs generalizing done with
  | nil => simp
  | cons b bs ih => simp [ih, ByteArray.data_push]

/-- The byte string that was written is read. -/
@[simp] theorem decode_encode (bytes : ByteArray) : decode (encode bytes) = .ok bytes := by
  have chars : (encode bytes).toList = symbols bytes.data.toList := by
    rw [encode, toList_encodeInto, String.toList_empty, List.nil_append]
  have whole : bytes.data.toList.foldl ByteArray.push .empty = bytes := by
    rw [ByteArray.ext_iff, data_foldl_push]
    simp
  simp only [decode, chars, all_symbols, head?_symbols, scanFrom_symbols, whole, Bool.not_true,
    Bool.false_eq_true, if_false]

end ResumableUpload.Base64
