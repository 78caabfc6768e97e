import ResumableUpload.ByteQuantity.Grammar
import ResumableUpload.Proofs.Text.DecimalDigit

/-!
# Byte quantities are read as they are written

The parts of a text are found by going on as long as possible: the digits, then the blanks, then the
letters. No character belongs to two of these, and so there is only one way to divide a text. It is
read as a quantity just when its parts are those of one, and all other texts are refused for the
first thing that is wrong with them.

## Main results

* `ByteQuantity.shaped_iff` — the parts of a text.
* `ByteQuantity.parseText_eq_ok_iff`, `ByteQuantity.parseText_eq_error_iff` — how a text is read.
* `ByteQuantity.shaped_written` — the parts of a number that is written with a unit.
* `ByteQuantity.parse_denotes` — quantities and the texts that write them.
-/

namespace ResumableUpload.ByteQuantity

variable {c : Char} {cs digits gap letters : List Char} {s : String}

/-! ### Kinds of characters -/

/-- Letters are no digits. -/
theorem not_isDecimalDigit_of_isUnitLetter (h : isUnitLetter c = true) :
    Text.isDecimalDigit c = false := by
  have apart : Text.digitZeros.all (fun z => z + 10 ≤ 97 || 122 < z) = true := by decide
  by_contra digit
  rw [Bool.not_eq_false] at digit
  obtain ⟨z, zero, run⟩ := Text.exists_zero_of_isDecimalDigit digit
  have apart := List.all_eq_true.mp apart z zero
  simp only [isUnitLetter, Bool.or_eq_true, Bool.and_eq_true, decide_eq_true_eq] at h apart
  omega

/-- Blanks are neither Latin letters nor the kelvin sign. -/
theorem apart_of_isBlank (h : Text.isBlank c = true) :
    (c.toNat < 65 ∨ 122 < c.toNat) ∧ c.toNat ≠ 0x212A := by
  have apart : ((0x1C, 0x1F) :: Text.whiteSpaceRanges).all (fun range =>
      (range.2 < 65 || 122 < range.1) && (range.2 < 0x212A || 0x212A < range.1)) = true := by decide
  obtain ⟨range, member, inside⟩ := Text.exists_range_of_isBlank h
  have apart := List.all_eq_true.mp apart range member
  simp only [Bool.or_eq_true, Bool.and_eq_true, decide_eq_true_eq] at apart
  omega

/-- Letters are no blanks. -/
theorem not_isBlank_of_isUnitLetter (h : isUnitLetter c = true) : Text.isBlank c = false := by
  by_contra blank
  rw [Bool.not_eq_false] at blank
  obtain ⟨apart, -⟩ := apart_of_isBlank blank
  simp only [isUnitLetter, Bool.and_eq_true, decide_eq_true_eq] at h
  omega

/-- Only capitals and the kelvin sign have another lower case. -/
theorem lowerCase_of_notCapital (kelvin : c.toNat ≠ 0x212A)
    (capital : ¬(65 ≤ c.toNat ∧ c.toNat ≤ 90)) : lowerCase c = c := by
  rw [lowerCase, if_neg kelvin, Text.asciiLower, if_neg capital]

/-- Blanks have no case. -/
theorem lowerCase_of_isBlank (h : Text.isBlank c = true) : lowerCase c = c := by
  obtain ⟨apart, kelvin⟩ := apart_of_isBlank h
  exact lowerCase_of_notCapital kelvin (by omega)

/-- The digits of ASCII have no case. -/
theorem lowerCase_of_isAsciiDigit (h : Text.isAsciiDigit c = true) : lowerCase c = c := by
  simp only [Text.isAsciiDigit, Bool.and_eq_true, decide_eq_true_eq] at h
  exact lowerCase_of_notCapital (by omega) (by omega)

/-! ### Parts -/

/-- The parts of a text are found by going on as long as possible. -/
theorem shaped_iff :
    Shaped cs digits gap letters ↔
      digits = cs.takeWhile Text.isDecimalDigit ∧
      gap = (cs.dropWhile Text.isDecimalDigit).takeWhile Text.isBlank ∧
      letters = (cs.dropWhile Text.isDecimalDigit).dropWhile Text.isBlank ∧
      digits ≠ [] ∧ letters.all isUnitLetter = true := by
  constructor
  · rintro ⟨rfl, ne, allDigits, allBlank, allLetters⟩
    have noBlank : ∀ c, letters.head? = some c → Text.isBlank c = false := fun c head =>
      not_isBlank_of_isUnitLetter (allLetters c (List.mem_of_head? head))
    have noDigit : ∀ c, (gap ++ letters).head? = some c → Text.isDecimalDigit c = false := by
      intro c head
      rcases List.mem_append.mp (List.mem_of_head? head) with blank | letter
      · exact Text.not_isDecimalDigit_of_isBlank (allBlank c blank)
      · exact not_isDecimalDigit_of_isUnitLetter (allLetters c letter)
    obtain ⟨taken, dropped⟩ := Text.span_append allDigits noDigit
    obtain ⟨taken', dropped'⟩ := Text.span_append allBlank noBlank
    rw [taken, dropped, taken', dropped']
    exact ⟨rfl, rfl, rfl, ne, List.all_eq_true.mpr allLetters⟩
  · rintro ⟨rfl, rfl, rfl, ne, allLetters⟩
    refine ⟨?_, ne, fun c => List.mem_takeWhile_imp, fun c => List.mem_takeWhile_imp,
      List.all_eq_true.mp allLetters⟩
    rw [List.takeWhile_append_dropWhile, List.takeWhile_append_dropWhile]

/-- There is only one way to divide a text. -/
theorem Shaped.unique {digits' gap' letters' : List Char} (h : Shaped cs digits gap letters)
    (h' : Shaped cs digits' gap' letters') :
    digits = digits' ∧ gap = gap' ∧ letters = letters' := by
  rw [shaped_iff] at h h'
  obtain ⟨rfl, rfl, rfl, -⟩ := h
  obtain ⟨rfl, rfl, rfl, -⟩ := h'
  exact ⟨rfl, rfl, rfl⟩

/-! ### Units -/

/-- The units of the table are those that are read. -/
theorem mem_units_iff {size : Nat} :
    (String.ofList letters, size) ∈ units ↔ unitSize? letters = some size := by
  constructor
  · intro member
    simp only [units, List.mem_cons, List.not_mem_nil, or_false, Prod.mk.injEq] at member
    rcases member with ⟨word, rfl⟩ | ⟨word, rfl⟩ | ⟨word, rfl⟩ | ⟨word, rfl⟩ | ⟨word, rfl⟩ |
      ⟨word, rfl⟩ | ⟨word, rfl⟩ | ⟨word, rfl⟩
    all_goals
      obtain rfl := String.ofList_inj.mp word
      rfl
  · intro known
    unfold unitSize? at known
    split at known
    case h_9 => contradiction
    all_goals
      obtain rfl := Option.some.inj known
      decide

/-- Units consist of letters. -/
theorem isUnitLetter_of_mem_units {unit : String} {size : Nat} (known : (unit, size) ∈ units) :
    ∀ c ∈ unit.toList, isUnitLetter c = true := by
  have all : units.all (fun entry => entry.1.toList.all isUnitLetter) = true := by decide
  exact List.all_eq_true.mp (List.all_eq_true.mp all _ known)

/-! ### Reading -/

/-- A text is read by the parts of its plain form. -/
theorem parseText_eq (s : String) :
    parseText s =
      if ((plain s).takeWhile Text.isDecimalDigit).isEmpty ||
          !(((plain s).dropWhile Text.isDecimalDigit).dropWhile Text.isBlank).all isUnitLetter then
        .error (.malformed (Text.quote s))
      else
        match unitSize? (((plain s).dropWhile Text.isDecimalDigit).dropWhile Text.isBlank) with
        | none => .error (.unknownUnit (Text.quote s))
        | some size =>
          if maxDigits < ((plain s).takeWhile Text.isDecimalDigit).length then
            .error (.tooLong ((plain s).takeWhile Text.isDecimalDigit).length)
          else .ok (Text.digitsValue ((plain s).takeWhile Text.isDecimalDigit) * size) := rfl

/-- A text with the parts of a quantity is read by its unit and its digits. -/
theorem parseText_of_shaped (shaped : Shaped (plain s) digits gap letters) :
    parseText s =
      match unitSize? letters with
      | none => .error (.unknownUnit (Text.quote s))
      | some size =>
        if maxDigits < digits.length then .error (.tooLong digits.length)
        else .ok (Text.digitsValue digits * size) := by
  obtain ⟨rfl, -, rfl, ne, allLetters⟩ := shaped_iff.mp shaped
  rw [parseText_eq, List.isEmpty_eq_false_iff.mpr ne, allLetters]
  rfl

/-- Any other text is malformed. -/
theorem parseText_of_shapeless (none : ¬∃ digits gap letters, Shaped (plain s) digits gap letters) :
    parseText s = .error (.malformed (Text.quote s)) := by
  rw [parseText_eq]
  split
  · rfl
  next whole =>
    simp only [Bool.or_eq_true, not_or, Bool.not_eq_true', Bool.not_eq_true, Bool.not_eq_false,
      List.isEmpty_eq_false_iff] at whole
    exact absurd ⟨_, _, _, shaped_iff.mpr ⟨rfl, rfl, rfl, whole⟩⟩ none

/-- A text is read as the number of bytes that it stands for. -/
theorem parseText_eq_ok_iff {n : Nat} : parseText s = .ok n ↔ Denotes s n := by
  constructor
  · intro read
    by_cases shape : ∃ digits gap letters, Shaped (plain s) digits gap letters
    · obtain ⟨digits, gap, letters, shaped⟩ := shape
      rw [parseText_of_shaped shaped] at read
      split at read
      · contradiction
      next size known =>
        split at read
        · contradiction
        next short =>
          obtain rfl := Except.ok.inj read
          exact ⟨digits, gap, letters, size, shaped, mem_units_iff.mpr known,
            Nat.le_of_not_lt short, rfl⟩
    · rw [parseText_of_shapeless shape] at read
      contradiction
  · rintro ⟨digits, gap, letters, size, shaped, known, short, count⟩
    rw [parseText_of_shaped shaped, mem_units_iff.mp known, Int.ofNat.inj count]
    simp only [if_neg (Nat.not_lt.mpr short)]

/-- A text is refused for what is wrong with it. -/
theorem parseText_eq_error_iff {fault : Fault} : parseText s = .error fault ↔ Refused s fault := by
  constructor
  · intro refused
    by_cases shape : ∃ digits gap letters, Shaped (plain s) digits gap letters
    · obtain ⟨digits, gap, letters, shaped⟩ := shape
      rw [parseText_of_shaped shaped] at refused
      split at refused
      next unknown =>
        obtain rfl := Except.error.inj refused
        refine .unknownUnit shaped fun size known => ?_
        rw [mem_units_iff.mp known] at unknown
        contradiction
      next size known =>
        split at refused
        next long =>
          obtain rfl := Except.error.inj refused
          exact .tooLong shaped (mem_units_iff.mpr known) long
        · contradiction
    · rw [parseText_of_shapeless shape] at refused
      obtain rfl := Except.error.inj refused
      exact .malformed shape
  · rintro (shapeless | ⟨shaped, unknown⟩ | ⟨shaped, known, long⟩)
    · exact parseText_of_shapeless shapeless
    · rw [parseText_of_shaped shaped]
      cases found : unitSize? _ with
      | none => rfl
      | some size => exact absurd (mem_units_iff.mpr found) (unknown size)
    · rw [parseText_of_shaped shaped, mem_units_iff.mp known]
      simp only [if_pos long]

/-- A text stands for one number of bytes at most. -/
theorem Denotes.unique {count count' : Int} (h : Denotes s count) (h' : Denotes s count') :
    count = count' := by
  obtain ⟨digits, gap, letters, size, shaped, known, -, rfl⟩ := h
  obtain ⟨digits', gap', letters', size', shaped', known', -, rfl⟩ := h'
  obtain ⟨rfl, rfl, rfl⟩ := shaped.unique shaped'
  rw [mem_units_iff] at known known'
  rw [Option.some.inj (known.symm.trans known')]

/-- No number of bytes is negative. -/
theorem Denotes.nonneg {count : Int} (h : Denotes s count) : 0 ≤ count := by
  obtain ⟨digits, gap, letters, size, -, -, -, rfl⟩ := h
  exact Int.natCast_nonneg _

/-- A text that stands for no number of bytes is refused. -/
theorem exists_refused (none : ¬∃ count, Denotes s count) : ∃ fault, Refused s fault := by
  cases read : parseText s with
  | ok n => exact absurd ⟨_, parseText_eq_ok_iff.mp read⟩ none
  | error fault => exact ⟨fault, parseText_eq_error_iff.mp read⟩

/-! ### Writing -/

/-- What is a letter in lower case is no blank. -/
theorem not_isBlank_of_lowerCase (h : isUnitLetter (lowerCase c) = true) :
    Text.isBlank c = false := by
  by_contra blank
  rw [Bool.not_eq_false] at blank
  rw [lowerCase_of_isBlank blank] at h
  exact absurd blank (Bool.eq_false_iff.mp (not_isBlank_of_isUnitLetter h))

/-- A row without case is its own lower case. -/
theorem map_lowerCase_of_fixed {p : Char → Bool} (fixed : ∀ c, p c = true → lowerCase c = c)
    (all : ∀ c ∈ cs, p c = true) : cs.map lowerCase = cs := by
  refine (List.map_congr_left fun c member => ?_).trans cs.map_id
  exact fixed c (all c member)

/-- The digits of a number are no blanks. -/
theorem not_isBlank_of_mem_toDigits {n : Nat} (h : c ∈ Nat.toDigits 10 n) :
    Text.isBlank c = false := by
  by_contra blank
  rw [Bool.not_eq_false] at blank
  have digit := Text.isDecimalDigit_of_isAsciiDigit (Numeral.isAsciiDigit_of_mem h)
  exact absurd digit (Bool.eq_false_iff.mp (Text.not_isDecimalDigit_of_isBlank blank))

/-- The plain form of a number with something behind it that does not end with a blank. -/
theorem plain_number {n : Nat} {before behind after : List Char}
    (blankBefore : ∀ c ∈ before, Text.isBlank c = true)
    (blankAfter : ∀ c ∈ after, Text.isBlank c = true)
    (last : ∀ c, behind.getLast? = some c → Text.isBlank c = false)
    (text : s.toList = before ++ ((Nat.toDigits 10 n ++ behind) ++ after)) :
    plain s = Nat.toDigits 10 n ++ behind.map lowerCase := by
  have ne : Nat.toDigits 10 n ≠ [] := Nat.toDigits_ne_nil
  have trimmed : Text.trimBy Text.isBlank s.toList = Nat.toDigits 10 n ++ behind := by
    rw [text]
    refine Text.trimBy_between blankBefore blankAfter (List.append_ne_nil_of_left_ne_nil ne _)
      (fun c head => ?_) (fun c final => ?_)
    · rw [List.head?_append_of_ne_nil _ ne] at head
      exact not_isBlank_of_mem_toDigits (List.mem_of_head? head)
    · rcases List.eq_nil_or_concat behind with rfl | ⟨front, final', rfl⟩
      · rw [List.append_nil] at final
        exact not_isBlank_of_mem_toDigits (List.mem_of_getLast? final)
      · rw [List.getLast?_append_of_ne_nil _ (by simp)] at final
        exact last c final
  rw [plain, trimmed, List.map_append, map_lowerCase_of_fixed (fun c => lowerCase_of_isAsciiDigit)
    fun c => Numeral.isAsciiDigit_of_mem]

/-- The parts of a number that is written with a unit. Where there is no unit, the blanks behind the
number are all trimmed. -/
theorem shaped_written {n size : Nat} {before gap written after unit : String}
    (blankBefore : ∀ c ∈ before.toList, Text.isBlank c = true)
    (blankGap : ∀ c ∈ gap.toList, Text.isBlank c = true)
    (blankAfter : ∀ c ∈ after.toList, Text.isBlank c = true) (known : (unit, size) ∈ units)
    (case : written.toList.map lowerCase = unit.toList) :
    Shaped (plain (before ++ toString n ++ gap ++ written ++ after)) (Nat.toDigits 10 n)
      (if unit.toList = [] then [] else gap.toList) unit.toList := by
  have letters := isUnitLetter_of_mem_units known
  have digits : ∀ c ∈ Nat.toDigits 10 n, Text.isDecimalDigit c = true := fun c member =>
    Text.isDecimalDigit_of_isAsciiDigit (Numeral.isAsciiDigit_of_mem member)
  have text : (before ++ toString n ++ gap ++ written ++ after).toList =
      before.toList ++ (Nat.toDigits 10 n ++ (gap.toList ++ written.toList) ++ after.toList) := by
    simp
  by_cases none : unit.toList = []
  · rw [if_pos none]
    have bare : written.toList = [] := by rwa [none, List.map_eq_nil_iff] at case
    have blankBehind : ∀ c ∈ gap.toList ++ after.toList, Text.isBlank c = true :=
      fun c member => (List.mem_append.mp member).elim (blankGap c) (blankAfter c)
    have trailing : (before ++ toString n ++ gap ++ written ++ after).toList =
        before.toList ++ ((Nat.toDigits 10 n ++ []) ++ (gap.toList ++ after.toList)) := by
      rw [text, bare]
      simp
    have read := plain_number blankBefore blankBehind (by simp) trailing
    exact ⟨by rw [read, none]; rfl, Nat.toDigits_ne_nil, digits, by simp, letters⟩
  · rw [if_neg none]
    have last : ∀ c, (gap.toList ++ written.toList).getLast? = some c →
        Text.isBlank c = false := by
      intro c final
      have ne : written.toList ≠ [] := fun nil => none (by rw [← case, nil]; rfl)
      rw [List.getLast?_append_of_ne_nil _ ne] at final
      refine not_isBlank_of_lowerCase (letters _ ?_)
      rw [← case]
      exact List.mem_map_of_mem (List.mem_of_getLast? final)
    have read := plain_number blankBefore blankAfter last text
    rw [List.map_append, map_lowerCase_of_fixed (fun c => lowerCase_of_isBlank) blankGap, case]
      at read
    exact ⟨read, Nat.toDigits_ne_nil, digits, blankGap, letters⟩

/-- A number that is written with a unit stands for so many of them. -/
theorem denotes_written {n size : Nat} {before gap written after unit : String}
    (short : (toString n).length ≤ maxDigits)
    (blankBefore : ∀ c ∈ before.toList, Text.isBlank c = true)
    (blankGap : ∀ c ∈ gap.toList, Text.isBlank c = true)
    (blankAfter : ∀ c ∈ after.toList, Text.isBlank c = true) (known : (unit, size) ∈ units)
    (case : written.toList.map lowerCase = unit.toList) :
    Denotes (before ++ toString n ++ gap ++ written ++ after) (n * size : Nat) := by
  refine ⟨_, _, _, size, shaped_written blankBefore blankGap blankAfter known case, ?_, ?_, ?_⟩
  · rwa [String.ofList_toList]
  · rw [← String.length_toList] at short
    simpa using short
  · rw [Text.digitsValue_toDigits]

/-! ### Quantities -/

/-- A value is given for a text just when the text stands for it. -/
theorem parse_eq_ok_iff {v : Value} :
    parse (.text s) = .ok v ↔ ∃ count, Denotes s count ∧ v = .int count := by
  rw [parse_text]
  constructor
  · intro accepted
    cases read : parseText s with
    | ok n =>
      rw [read] at accepted
      exact ⟨n, parseText_eq_ok_iff.mp read, (Except.ok.inj accepted).symm⟩
    | error fault =>
      rw [read] at accepted
      contradiction
  · rintro ⟨count, stands, rfl⟩
    obtain ⟨n, rfl⟩ := Int.eq_ofNat_of_zero_le stands.nonneg
    rw [parseText_eq_ok_iff.mpr stands]
    rfl

/-- A text is refused by `parse` as it is by `parseText`. -/
theorem parse_eq_error_iff {fault : Fault} : parse (.text s) = .error fault ↔ Refused s fault := by
  rw [parse_text, ← parseText_eq_error_iff]
  cases parseText s with
  | ok n => constructor <;> intro refused <;> contradiction
  | error fault' => simp [Except.map]

/-- A value is given for a text just when the text stands for it, and any other text is refused for
what is wrong with it. There is only one way to divide a text, and no quantity is negative. However
a number is written with a unit, in whichever case and with whichever blanks before, between and
after, it is read as so many of this unit. -/
theorem parse_denotes :
    (∀ s v, parse (.text s) = .ok v ↔ ∃ count, Denotes s count ∧ v = .int count) ∧
    (∀ s count, Denotes s count → 0 ≤ count) ∧
    (∀ s digits gap letters digits' gap' letters', Shaped (plain s) digits gap letters →
      Shaped (plain s) digits' gap' letters' → digits = digits' ∧ gap = gap' ∧ letters = letters') ∧
    (∀ s fault, parse (.text s) = .error fault ↔ Refused s fault) ∧
    (∀ s, (∃ fault, Refused s fault) ↔ ¬∃ count, Denotes s count) ∧
    ∀ (n size : Nat) (before gap written after unit : String), (toString n).length ≤ maxDigits →
      (unit, size) ∈ units → written.toList.map lowerCase = unit.toList →
      (∀ c ∈ before.toList ++ gap.toList ++ after.toList, Text.isBlank c = true) →
      parse (.text (before ++ toString n ++ gap ++ written ++ after)) =
        .ok (.int (n * size : Nat)) := by
  refine ⟨fun s v => parse_eq_ok_iff, fun s count => Denotes.nonneg,
    fun _ _ _ _ _ _ _ => Shaped.unique, fun s fault => parse_eq_error_iff, fun s => ?_, ?_⟩
  · refine ⟨?_, exists_refused⟩
    rintro ⟨fault, refused⟩ ⟨count, stands⟩
    have accepted := parse_eq_ok_iff.mpr ⟨count, stands, rfl⟩
    rw [parse_eq_error_iff.mpr refused] at accepted
    contradiction
  · intro n size before gap written after unit short known case blank
    simp only [List.forall_mem_append] at blank
    exact parse_eq_ok_iff.mpr
      ⟨_, denotes_written short blank.1.1 blank.1.2 blank.2 known case, rfl⟩

/-- The unit may be written with the kelvin sign, and an em space may stand before it. -/
theorem parse_kelvins :
    parse (.text ("\t" ++ toString 640 ++ "\u2003" ++ "\u212AB" ++ "\n")) = .ok (.int 655360) := by
  obtain ⟨-, -, -, -, -, written⟩ := parse_denotes
  have case : "\u212AB".toList.map lowerCase = "kb".toList := by decide +kernel
  have blank : ∀ c ∈ "\t".toList ++ "\u2003".toList ++ "\n".toList, Text.isBlank c = true :=
    List.all_eq_true.mp (by decide +kernel)
  exact written 640 1024 "\t" "\u2003" "\u212AB" "\n" "kb" (by decide) (by decide) case blank

end ResumableUpload.ByteQuantity
