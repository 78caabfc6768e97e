/-!
# Characters of texts from outside

A text that comes from outside need not consist of Unicode characters: it may hold a **lone
surrogate**, one of the code points that stand for half of a character elsewhere and for nothing by
themselves. Such a text is a row of points here, and no `String`.

## Main definitions

* `Point` — a Unicode character or a lone surrogate.
* `Point.characters?` — the characters of a row of points without lone surrogates.
* `Letter` — a type whose members are read as characters.
-/

namespace ResumableUpload.Text

/-- A code point: a Unicode character or a lone surrogate. -/
inductive Point where
  /-- A character. -/
  | char (c : Char)
  /-- The surrogate of a number, counted from the first one, U+D800. -/
  | surrogate (number : Fin 2048)
deriving DecidableEq, Repr

namespace Point

/-- The characters of a row of points, if there is no surrogate among them. -/
def characters? : List Point → Option (List Char)
  | [] => some []
  | char c :: points => (characters? points).map (c :: ·)
  | surrogate _ :: _ => none

/-- Points that are characters are a row of characters. -/
@[simp]
theorem characters?_map (cs : List Char) : characters? (cs.map char) = some cs := by
  induction cs with
  | nil => rfl
  | cons c cs ih => rw [List.map_cons, characters?, ih, Option.map_some]

/-- A row of characters has no other points. -/
theorem eq_map_of_characters? {points : List Point} {cs : List Char}
    (h : characters? points = some cs) : points = cs.map char := by
  induction points generalizing cs with
  | nil =>
    obtain rfl := Option.some.inj h
    rfl
  | cons point points ih =>
    cases point with
    | char c =>
      obtain ⟨rest, read, rfl⟩ := Option.map_eq_some_iff.mp h
      rw [ih read, List.map_cons]
    | surrogate number => contradiction

/-- With a surrogate there is no row of characters. -/
theorem characters?_append_surrogate (front : List Point) (number : Fin 2048)
    (rest : List Point) : characters? (front ++ surrogate number :: rest) = none := by
  induction front with
  | nil => rfl
  | cons point front ih =>
    cases point with
    | char c => rw [List.cons_append, characters?, ih, Option.map_none]
    | surrogate number => rfl

end Point

/-- The points of a text. -/
def points (s : String) : List Point := s.toList.map .char

/-- A type whose members are read as characters. -/
class Letter (α : Type) where
  /-- The character as which a letter is read. -/
  char : α → Char

/-- A character is read as itself. -/
instance : Letter Char := ⟨fun c => c⟩

/-- A lone surrogate is read as the replacement character: neither is of any use in an address. -/
instance : Letter Point where
  char
    | .char c => c
    | .surrogate _ => '\uFFFD'

/-- A character is read as it is. -/
@[simp]
theorem letter_char (c : Char) : Letter.char c = c := rfl

/-- A row of characters is read as it is. -/
@[simp]
theorem map_letter (cs : List Char) : cs.map Letter.char = cs := List.map_id' cs

end ResumableUpload.Text
