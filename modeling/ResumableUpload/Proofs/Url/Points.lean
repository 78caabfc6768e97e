import ResumableUpload.Url.Split

/-!
# Addresses as rows of points

An address without lone surrogates is taken apart in the same way whether it is a row of characters
or a row of points: every part of it is found by what its letters are read as.

## Main results

* `Url.path_map` — the path of such an address, or what is wrong with it.
-/

namespace ResumableUpload.Url

open Text (Letter Point)

/-! ### Rows of letters -/

/-- Characters taken as points are read as these characters. -/
theorem map_letter_map (cs : List Char) : (cs.map Point.char).map Letter.char = cs := by
  rw [List.map_map]
  exact Text.map_letter cs

/-- The first letter of a row of characters is read as the first character. -/
theorem head?_letter (cs : List Char) : cs.head?.map Letter.char = cs.head? := by
  rw [← List.head?_map, Text.map_letter]

/-- The same of characters taken as points. -/
theorem head?_letter_map (cs : List Char) :
    (cs.map Point.char).head?.map Letter.char = cs.head? := by
  rw [← List.head?_map, map_letter_map]

/-- The points up to a character. -/
theorem takeWhile_ne_map (stop : Char) (cs : List Char) :
    (cs.map Point.char).takeWhile (Letter.char · ≠ stop) =
      (cs.takeWhile (Letter.char · ≠ stop)).map .char := by
  rw [List.takeWhile_map]
  rfl

/-- The points from a character on. -/
theorem dropWhile_ne_map (stop : Char) (cs : List Char) :
    (cs.map Point.char).dropWhile (Letter.char · ≠ stop) =
      (cs.dropWhile (Letter.char · ≠ stop)).map .char := by
  rw [List.dropWhile_map]
  rfl

/-- What follows the last occurrence of a character. -/
theorem afterLast_map (c : Char) (cs : List Char) :
    afterLast c (cs.map Point.char) = (afterLast c cs).map .char := by
  rw [afterLast, afterLast, ← List.map_reverse, takeWhile_ne_map, List.map_reverse]

/-! ### The parts of an address -/

/-- The same characters are dropped. -/
theorem clean_map (cs : List Char) : clean (cs.map Point.char) = (clean cs).map .char := by
  rw [clean, List.dropWhile_map, List.filter_map]
  rfl

/-- The same scheme is found. -/
theorem takeScheme_map (cs : List Char) :
    takeScheme (cs.map Point.char) = ((takeScheme cs).1, (takeScheme cs).2.map .char) := by
  rw [takeScheme, takeScheme, takeWhile_ne_map, dropWhile_ne_map, map_letter_map, Text.map_letter]
  cases cs.dropWhile (Letter.char · ≠ ':') with
  | nil => rfl
  | cons colon rest =>
    rw [List.map_cons]
    dsimp only
    split <;> rfl

/-- The same location is found. -/
theorem takeLocation_map (cs : List Char) :
    takeLocation (cs.map Point.char) =
      ((takeLocation cs).1.map .char, (takeLocation cs).2.map .char) := by
  rw [takeLocation, takeLocation, ← List.map_take, map_letter_map, Text.map_letter]
  split
  · dsimp only
    rw [← List.map_drop, List.takeWhile_map, List.dropWhile_map]
    rfl
  · rfl

/-- The same fault of a bracketed host is found. -/
theorem hostFault_map (cs : List Char) :
    hostFault (cs.map Point.char) = (hostFault cs).map (UrlFault.map .char) := by
  rw [hostFault, hostFault, map_letter_map, Text.map_letter, Option.map_map]
  rfl

/-- The same fault of a location with both brackets is found. -/
theorem bracketFault_map (cs : List Char) :
    bracketFault (cs.map Point.char) = (bracketFault cs).map (UrlFault.map .char) := by
  rw [bracketFault, bracketFault, afterLast_map]
  dsimp only
  rw [dropWhile_ne_map, takeWhile_ne_map]
  cases (afterLast '@' cs).dropWhile (Letter.char · ≠ '[') with
  | nil => exact hostFault_map _
  | cons bracket bracketed =>
    rw [List.map_cons]
    dsimp only
    rw [dropWhile_ne_map, takeWhile_ne_map, ← List.map_drop, head?_letter_map, head?_letter_map,
      head?_letter, head?_letter, List.isEmpty_map, hostFault_map]
    split
    · rfl
    · split <;> rfl

/-- The same fault of brackets is found. -/
theorem checkBrackets_map (cs : List Char) :
    checkBrackets (cs.map Point.char) = (checkBrackets cs).map (UrlFault.map .char) := by
  rw [checkBrackets, checkBrackets, map_letter_map, Text.map_letter, bracketFault_map]
  split <;> rfl

/-- The same fault of characters is found. -/
theorem checkCharacters_map (cs : List Char) :
    checkCharacters (cs.map Point.char) = (checkCharacters cs).map (UrlFault.map .char) := by
  rw [checkCharacters, checkCharacters, List.any_map, apply_ite (Option.map _)]
  rfl

/-- The same parameters are cut off. -/
theorem cutParameters_map (cs : List Char) :
    cutParameters (cs.map Point.char) = (cutParameters cs).map .char := by
  rw [cutParameters, cutParameters, afterLast_map, List.length_map, List.length_map,
    List.map_append, List.map_take, takeWhile_ne_map]

/-- The same path is found, or the same fault. -/
theorem path_map (cs : List Char) :
    path (cs.map Point.char) =
      ((path cs).map (List.map Point.char)).mapError (UrlFault.map .char) := by
  rw [path, path, clean_map, takeScheme_map]
  dsimp only
  rw [takeLocation_map]
  dsimp only
  rw [checkBrackets_map, checkCharacters_map]
  cases checkBrackets (takeLocation (takeScheme (clean cs)).2).1 with
  | some fault => rfl
  | none =>
    cases checkCharacters (takeLocation (takeScheme (clean cs)).2).1 with
    | some fault => rfl
    | none =>
      dsimp only [Option.map]
      rw [takeWhile_ne_map, takeWhile_ne_map, cutParameters_map]
      split <;> rfl

end ResumableUpload.Url
