import ResumableUpload.Json.Writer
import ResumableUpload.Proofs.Json.Document
import ResumableUpload.Proofs.Number.Numeral

/-!
# Reading what was written

What is written of a value is read again as its tokens. A quoted text and an object end with a
character of their own; a bare word ends where a comma or a brace follows. An integer of too many
digits is refused, and with it the document that it stands in.

## Main definitions

* `Scans` — which tokens a row of characters completes.
* `Spells`, `SpellsBefore` — a row of characters that is read as a value, alone or before a
  delimiter.

## Main results

* `spells_text`, `spellsBefore_int`, `spells_object` — texts, integers and objects.
* `Spells.read` — a document that is read as a value.
-/

namespace ResumableUpload.Json

variable {width : Nat}

/-! ### Scanning -/

/-- Scanning the characters leads from one mode to another and completes these tokens. -/
def Scans (width : Nat) (mode : Mode) (cs : List Char) (mode' : Mode) (tokens : List Token) :
    Prop :=
  ∀ (done : List Token) (rest : List Char),
    tokensFrom width mode done (cs ++ rest) = tokensFrom width mode' (tokens.reverse ++ done) rest

/-- No character completes no token. -/
theorem Scans.refl (mode : Mode) : Scans width mode [] mode [] := fun _ _ => rfl

/-- A single character. -/
theorem Scans.of_step {mode mode' : Mode} {c : Char} {tokens : List Token}
    (h : mode.step width c = some (mode', tokens)) : Scans width mode [c] mode' tokens := by
  intro done rest
  rw [List.singleton_append, tokensFrom, h]

/-- Characters in two parts. -/
theorem Scans.trans {mode₁ mode₂ mode₃ : Mode} {first second : List Char}
    {tokens₁ tokens₂ : List Token} (h₁ : Scans width mode₁ first mode₂ tokens₁)
    (h₂ : Scans width mode₂ second mode₃ tokens₂) :
    Scans width mode₁ (first ++ second) mode₃ (tokens₁ ++ tokens₂) := by
  intro done rest
  rw [List.append_assoc, h₁, h₂, List.reverse_append, List.append_assoc]

/-- A character before others. -/
theorem Scans.cons {mode₁ mode₃ : Mode} (mode₂ : Mode) {c : Char} {cs : List Char}
    {tokens : List Token} (h₁ : mode₁.step width c = some (mode₂, []))
    (h₂ : Scans width mode₂ cs mode₃ tokens) :
    Scans width mode₁ (c :: cs) mode₃ tokens :=
  (Scans.of_step h₁).trans h₂

/-! ### Texts -/

/-- A numbered unit below the surrogates stands for its character. -/
theorem closeUnit?_of_lt (read : String) {n : Nat} (small : n < 0xD800) :
    closeUnit? read none n = some (.text (read.push (Char.ofNat n))) := by
  have high : ¬(0xD800 ≤ n ∧ n < 0xDC00) := by omega
  have low : ¬(0xDC00 ≤ n ∧ n < 0xE000) := by omega
  simp only [closeUnit?, high, low, if_false]

/-- A digit of a numbered unit. -/
theorem step_unit (read : String) {digit count value : Nat} (small : digit < 16)
    (more : count < 3) :
    (Mode.unit read none count value).step width (Text.hexDigit digit) =
      some (.unit read none (count + 1) (16 * value + digit), []) := by
  simp [Mode.step, Text.hexValue?_hexDigit small, more]

/-- The last digit of a numbered unit. -/
theorem step_unit_last (read : String) {digit value : Nat} (small : digit < 16)
    (low : 16 * value + digit < 0xD800) :
    (Mode.unit read none 3 value).step width (Text.hexDigit digit) =
      some (.text (read.push (Char.ofNat (16 * value + digit))), []) := by
  simp [Mode.step, Text.hexValue?_hexDigit small, closeUnit?_of_lt read low]

/-- A character that is written by its number is read. -/
theorem scans_number (read : String) {c : Char} (small : c.toNat < 0x20) :
    Scans width (.text read) (Text.backslash :: 'u' :: Text.hexDigits 4 c.toNat)
      (.text (read.push c)) [] := by
  have digits : Text.hexDigits 4 c.toNat =
      [Text.hexDigit 0, Text.hexDigit 0, Text.hexDigit (c.toNat / 16),
        Text.hexDigit (c.toNat % 16)] := by
    have third : c.toNat / 16 % 16 = c.toNat / 16 := by omega
    have second : c.toNat / 16 / 16 = 0 := by omega
    simp [Text.hexDigits, third, second]
  have value : 16 * (16 * (16 * (16 * 0 + 0) + 0) + c.toNat / 16) + c.toNat % 16 = c.toNat := by
    omega
  rw [digits]
  refine .cons (.escape read) rfl (.cons (.unit read none 0 0) rfl ?_)
  refine .cons _ (step_unit read (by decide) (by decide)) ?_
  refine .cons _ (step_unit read (by decide) (by decide)) ?_
  refine .cons _ (step_unit read (by omega) (by decide)) (.of_step ?_)
  rw [step_unit_last read (by omega) (by omega), value, Char.ofNat_toNat]

/-- A character that is written by a letter is read. -/
theorem scans_letter (read : String) {letter c : Char} (other : letter ≠ 'u')
    (escaped : escaped? letter = some c) :
    Scans width (.text read) [Text.backslash, letter] (.text (read.push c)) [] := by
  refine .cons (.escape read) rfl (.of_step ?_)
  rw [Mode.step, if_neg other, escaped, Option.map_some]

/-- A character with a given number. -/
theorem eq_ofNat {c : Char} {n : Nat} (h : c.toNat = n) : Char.ofNat n = c := by
  rw [← h, Char.ofNat_toNat]

/-- A character as it is written is read. -/
theorem scans_writeChar (read : String) (c : Char) :
    Scans width (.text read) (writeChar c) (.text (read.push c)) [] := by
  rw [writeChar]
  split_ifs with special backspace feed newline carriage tab control
  · rcases special with rfl | rfl
    · exact scans_letter read (by decide) rfl
    · exact scans_letter read (by decide) rfl
  · rw [← eq_ofNat backspace]
    exact scans_letter read (by decide) rfl
  · rw [← eq_ofNat feed]
    exact scans_letter read (by decide) rfl
  · rw [newline]
    exact scans_letter read (by decide) rfl
  · rw [carriage]
    exact scans_letter read (by decide) rfl
  · rw [tab]
    exact scans_letter read (by decide) rfl
  · exact scans_number read control
  · rw [not_or] at special
    refine .of_step ?_
    rw [Mode.step, if_neg special.1, if_neg special.2, if_neg control]

/-- Characters as they are written are read. -/
theorem scans_writeChars (read : String) (cs : List Char) :
    Scans width (.text read) (cs.flatMap writeChar) (.text (cs.foldl String.push read)) [] := by
  induction cs generalizing read with
  | nil => exact .refl _
  | cons c cs ih =>
    rw [List.flatMap_cons]
    exact (scans_writeChar read c).trans (ih _)

/-! ### Values -/

/-- The characters are read as a value, or refused, whatever follows them. -/
def Spells (width : Nat) (cs : List Char) (v? : Option Value) : Prop :=
  ∀ (done : List Token) (rest : List Char),
    tokensFrom width .between done (cs ++ rest) =
      v?.bind fun v => tokensFrom width .between (v.tokens.reverse ++ done) rest

/-- A character that ends a bare word and is a token itself. -/
structure Delimits (c : Char) (token : Token) : Prop where
  /-- It does not belong to the word. -/
  not_word : isWordChar c = false
  /-- It is a token. -/
  begins : begin? c = some (.between, [token])

/-- A comma is a delimiter. -/
theorem delimits_comma : Delimits ',' .comma := ⟨by decide, rfl⟩

/-- A closing brace is a delimiter. -/
theorem delimits_brace : Delimits '\x7d' .closeObject := ⟨by decide, rfl⟩

/-- The characters are read as a value, or refused, when a delimiter follows. -/
def SpellsBefore (width : Nat) (cs : List Char) (v? : Option Value) : Prop :=
  ∀ (done : List Token) (c : Char) (token : Token) (rest : List Char), Delimits c token →
    tokensFrom width .between done (cs ++ c :: rest) =
      v?.bind fun v => tokensFrom width .between (token :: (v.tokens.reverse ++ done)) rest

/-- What is read as a value whatever follows is so before a delimiter. -/
theorem Spells.before {cs : List Char} {v? : Option Value} (h : Spells width cs v?) :
    SpellsBefore width cs v? := by
  intro done c token rest delimits
  rw [h]
  cases v? with
  | none => rfl
  | some v => simp only [Option.bind_some, tokensFrom, Mode.step, delimits.begins,
      List.reverse_singleton, List.singleton_append]

/-- A text is read as it was written. -/
theorem spells_text (s : String) : Spells width (writeText s).toList (some (.text s)) := by
  intro done rest
  have chars : (writeText s).toList =
      Text.doubleQuote :: (s.toList.flatMap writeChar ++ [Text.doubleQuote]) := by
    simp [writeText, toList_writeChars]
  have whole : s.toList.foldl String.push "" = s := by
    rw [← String.toList_inj, toList_foldl_push, String.toList_empty, List.nil_append]
  have body : Scans width (.text "") (s.toList.flatMap writeChar)
      (.text (s.toList.foldl String.push "")) [] := scans_writeChars "" s.toList
  rw [whole] at body
  have quoted : Scans width .between (writeText s).toList .between ([] ++ [.text s]) := by
    rw [chars]
    exact .cons (.text "") rfl (body.trans (.of_step rfl))
  exact quoted done rest

/-! ### Bare words -/

/-- A character of a bare word begins one. -/
theorem begin?_of_isWordChar {c : Char} (h : isWordChar c = true) :
    begin? c = some (.word [c], []) := by
  have other : ∀ d : Char, isWordChar d = false → c ≠ d := by
    rintro d plain rfl
    rw [h] at plain
    contradiction
  rw [begin?]
  rw [if_neg, if_neg (other _ (by decide)), if_neg (other _ (by decide)),
    if_neg (other _ (by decide)), if_neg (other _ (by decide)), if_neg (other _ (by decide)),
    if_neg (other _ (by decide)), if_neg (other _ (by decide)), if_pos h]
  rintro (rfl | rfl | rfl | rfl) <;> exact absurd h (by decide)

/-- The characters of a bare word are collected. -/
theorem scans_word (read cs : List Char) (all : ∀ c ∈ cs, isWordChar c = true) :
    Scans width (.word read) cs (.word (cs.reverse ++ read)) [] := by
  induction cs generalizing read with
  | nil => exact .refl _
  | cons c cs ih =>
    have first : (Mode.word read).step width c = some (.word (c :: read), []) :=
      if_pos (all c List.mem_cons_self)
    rw [List.reverse_cons, List.append_assoc, List.singleton_append]
    exact .cons _ first (ih _ fun c mem => all c (List.mem_cons_of_mem _ mem))

/-- The scalar of a bare word is a single token. -/
theorem tokens_of_wordValue? {word : List Char} {v : Value} (h : wordValue? width word = some v) :
    v.tokens = [.scalar v] := by
  rw [wordValue?] at h
  split_ifs at h with isNull isTrue isFalse isNan isInfinite isNegative overlong
  · obtain rfl := Option.some.inj h
    rfl
  · obtain rfl := Option.some.inj h
    rfl
  · obtain rfl := Option.some.inj h
    rfl
  · obtain rfl := Option.some.inj h
    rfl
  · obtain rfl := Option.some.inj h
    rfl
  · obtain rfl := Option.some.inj h
    rfl
  · rw [Option.map_eq_some_iff] at h
    obtain ⟨n, -, rfl⟩ := h
    rw [numeralValue]
    split <;> rfl

/-- A bare word is read as its scalar when a delimiter follows. -/
theorem spellsBefore_word {word : List Char} (ne : word ≠ [])
    (all : ∀ c ∈ word, isWordChar c = true) : SpellsBefore width word (wordValue? width word) := by
  intro done c token rest delimits
  obtain ⟨first, word, rfl⟩ := List.exists_cons_of_ne_nil ne
  have begun : Mode.between.step width first = some (.word [first], []) :=
    begin?_of_isWordChar (all first List.mem_cons_self)
  have collected := Scans.cons _ begun
    (scans_word [first] word fun c mem => all c (List.mem_cons_of_mem _ mem))
  have whole : (word.reverse ++ [first]).reverse = first :: word := by simp
  rw [collected, List.reverse_nil, List.nil_append, tokensFrom, Mode.step,
    if_neg (by rw [delimits.not_word]; exact Bool.false_ne_true), whole, delimits.begins]
  cases value : wordValue? width (first :: word) with
  | none => rfl
  | some v =>
    simp only [tokens_of_wordValue? value, Option.bind_some, List.reverse_cons, List.reverse_nil,
      List.nil_append, List.cons_append, Option.bind_eq_bind]

/-- Nothing is read as it was written. -/
theorem spellsBefore_null : SpellsBefore width "null".toList (some .null) :=
  spellsBefore_word (by decide) (List.all_eq_true.mp (by decide))

/-- A truth value is read as it was written. -/
theorem spellsBefore_bool (b : Bool) :
    SpellsBefore width (writeBool b).toList (some (.bool b)) := by
  cases b with
  | false =>
    have ne : "false".toList ≠ [] := by decide
    exact spellsBefore_word ne (List.all_eq_true.mp (by decide))
  | true =>
    have ne : "true".toList ≠ [] := by decide
    exact spellsBefore_word ne (List.all_eq_true.mp (by decide))

/-- An integer is read as it was written, unless it has too many digits. -/
theorem wordValue?_toString (pos : 0 < width) (n : Int) :
    wordValue? width (toString n).toList =
      if n.natAbs < tenTo width then some (.int n) else none := by
  have other : ∀ word : List Char, (word.any fun c => c != '-' && !Text.isAsciiDigit c) = true →
      (toString n).toList ≠ word := by
    rintro word strange rfl
    obtain ⟨c, mem, strange⟩ := List.any_eq_true.mp strange
    rcases Numeral.eq_minus_or_digit mem with rfl | digit
    · simp at strange
    · simp [digit] at strange
  have value : numeralValue ⟨decide (n < 0), Nat.toDigits 10 n.natAbs, none, none⟩ = .int n := by
    rw [numeralValue, if_pos (by rfl), Numeral.toInt_digits]
  rw [wordValue?]
  rw [if_neg (other _ (by decide)), if_neg (other _ (by decide)), if_neg (other _ (by decide)),
    if_neg (other _ (by decide)), if_neg (other _ (by decide)), if_neg (other _ (by decide)),
    Numeral.isOverlong_toString pos, Numeral.ofChars?_toString, Option.map_some, value]
  by_cases small : n.natAbs < tenTo width
  · rw [if_pos small, decide_eq_false (Nat.not_le.mpr small), if_neg Bool.false_ne_true]
  · rw [if_neg small, decide_eq_true (Nat.not_lt.mp small), if_pos rfl]

/-- An integer is read as it was written, or refused for its many digits. -/
theorem spellsBefore_int (pos : 0 < width) (n : Int) :
    SpellsBefore width (toString n).toList
      (if n.natAbs < tenTo width then some (.int n) else none) := by
  rw [← wordValue?_toString pos]
  refine spellsBefore_word ?_ fun c mem => ?_
  · rw [Numeral.toList_toString]
    simp
  · rcases Numeral.eq_minus_or_digit mem with rfl | digit
    · decide
    · simp [isWordChar, digit]

/-! ### Objects -/

/-- The members of an object, refused if one of their values is. -/
def memberValues? : List (String × Option Value) → Option Fields
  | [] => some []
  | (name, v?) :: members =>
    v?.bind fun v => (memberValues? members).map fun fields => (name, v) :: fields

/-- A member as it is written. -/
def memberChars (m : String × String) : List Char := (writeText m.1).toList ++ ':' :: m.2.toList

/-- The written members stand between braces, with commas between them. -/
theorem toList_writeObject (m : String × String) (members : List (String × String)) :
    (writeObject (m :: members)).toList =
      '\x7b' ::
        (memberChars m ++ (members.flatMap (fun m => ',' :: memberChars m) ++ ['\x7d'])) := by
  have separated : ∀ (first : List Char) (rows : List (List Char)),
      [','].intercalate (first :: rows) = first ++ rows.flatMap (',' :: ·) := by
    intro first rows
    induction rows generalizing first with
    | nil => simp
    | cons row rows ih => rw [List.intercalate_cons_cons, ih]; simp
  simp [writeObject, separated, memberChars, List.flatMap_map, Function.comp_def]

/-- The name of a member and its value are read, and the delimiter behind them. -/
theorem tokensFrom_member {m : String × String} {v? : Option Value}
    (h : SpellsBefore width m.2.toList v?) (done : List Token) {c : Char} {token : Token}
    (delimits : Delimits c token) (rest : List Char) :
    tokensFrom width .between done (memberChars m ++ c :: rest) =
      v?.bind fun v => tokensFrom width .between
        (token :: (v.tokens.reverse ++ .colon :: .text m.1 :: done)) rest := by
  rw [memberChars, List.append_assoc, spells_text]
  exact h (.colon :: .text m.1 :: done) c token rest delimits

/-- Written members are read up to the closing brace. -/
theorem tokensFrom_members {m : String × String} {members : List (String × String)}
    {v : String × Option Value} {values : List (String × Option Value)}
    (h : List.Forall₂ (fun m v => m.1 = v.1 ∧ SpellsBefore width m.2.toList v.2)
      (m :: members) (v :: values)) (done : List Token) (rest : List Char) :
    tokensFrom width .between done
        (memberChars m ++ (members.flatMap (fun m => ',' :: memberChars m) ++ '\x7d' :: rest)) =
      (memberValues? (v :: values)).bind fun fields =>
        tokensFrom width .between ((Value.memberTokens fields).tail.reverse ++ done) rest := by
  induction members generalizing m v values done with
  | nil =>
    obtain ⟨⟨name, first⟩, none⟩ := List.forall₂_cons.mp h
    cases none
    obtain ⟨vName, v?⟩ := v
    obtain rfl : m.1 = vName := name
    rw [List.flatMap_nil, List.nil_append, tokensFrom_member first done delimits_brace]
    cases v? with
    | none => rfl
    | some v => simp [memberValues?, Value.memberTokens]
  | cons next members ih =>
    obtain ⟨⟨name, first⟩, more⟩ := List.forall₂_cons.mp h
    obtain ⟨vName, v?⟩ := v
    obtain rfl : m.1 = vName := name
    cases more with
    | @cons _ following _ values second more =>
      rw [List.flatMap_cons, List.cons_append, List.cons_append, List.append_assoc,
        tokensFrom_member first done delimits_comma]
      cases v? with
      | none => rfl
      | some v =>
        rw [Option.bind_some, ih (.cons second more)]
        obtain ⟨nextName, next?⟩ := following
        cases next? with
        | none => simp [memberValues?]
        | some w =>
          cases rest? : memberValues? values with
          | none => simp [memberValues?, rest?]
          | some fields => simp [memberValues?, rest?, Value.memberTokens]

/-- One more member. -/
theorem spellsBefore_cons {name written : String} {v? : Option Value}
    {members : List (String × String)} {values : List (String × Option Value)}
    (first : SpellsBefore width written.toList v?)
    (more : List.Forall₂ (fun m v => m.1 = v.1 ∧ SpellsBefore width m.2.toList v.2) members
      values) :
    List.Forall₂ (fun m v => m.1 = v.1 ∧ SpellsBefore width m.2.toList v.2)
      ((name, written) :: members) ((name, v?) :: values) :=
  .cons ⟨rfl, first⟩ more

/-- An object is read as it was written when its values are, and refused if one of them is. -/
theorem spells_object {members : List (String × String)} {values : List (String × Option Value)}
    (h : List.Forall₂ (fun m v => m.1 = v.1 ∧ SpellsBefore width m.2.toList v.2) members values) :
    Spells width (writeObject members).toList ((memberValues? values).map .object) := by
  intro done rest
  cases h with
  | nil => rfl
  | @cons m v members values first more =>
    have opened : ∀ cs, tokensFrom width .between done ('\x7b' :: cs) =
        tokensFrom width .between (.openObject :: done) cs := fun _ => rfl
    rw [toList_writeObject, List.cons_append, opened, List.append_assoc, List.append_assoc,
      List.singleton_append, tokensFrom_members (.cons first more)]
    obtain ⟨name, v?⟩ := v
    cases v? with
    | none => rfl
    | some v =>
      cases rest? : memberValues? values with
      | none => simp [memberValues?, rest?]
      | some fields => simp [memberValues?, rest?, Value.memberTokens, Value.tokens]

/-! ### Documents -/

/-- A document that spells a value is read as that value, if it is not nested too deeply. -/
theorem Spells.read {limits : Limits} {document : String} {v? : Option Value}
    (h : Spells limits.width document.toList v?)
    (shallow : ∀ v, v? = some v → v.depth ≤ limits.nesting) : read limits document = v? := by
  have tokens : tokenize limits.width document = v?.map Value.tokens := by
    rw [tokenize, ← List.append_nil document.toList, h]
    cases v? with
    | none => rfl
    | some v => simp [tokensFrom, Mode.close?]
  rw [Json.read, tokens]
  cases v? with
  | none => rfl
  | some v =>
    have fits : ([] : List Frame).length + v.depth ≤ limits.nesting := by
      simpa using shallow v rfl
    have done := Reader.run_tokens v [] [] fits
    rw [List.append_nil] at done
    simp [done, Reader.deliver, Reader.run, Reader.result?]

end ResumableUpload.Json
