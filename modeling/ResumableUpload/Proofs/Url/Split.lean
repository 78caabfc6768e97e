import ResumableUpload.Proofs.Text.Percent
import ResumableUpload.Url.Grammar

/-!
# The path of an address

An address with a plain host is cut at its first question mark after the path, whatever the query
holds. Its path loses nothing but the parameters of its last segment.

## Main results

* `Url.takeWhile_ne`, `Url.dropWhile_ne` — a row of characters up to one of them.
* `Url.cutParameters_eq` — what is left of a path.
* `Url.path_of_host` — the path of an address.
-/

namespace ResumableUpload.Url

open Text (Letter)

/-! ### Up to a character -/

variable {α : Type} [Letter α]

/-- Nothing stops before the first occurrence of a character. -/
theorem takeWhile_ne {c : Char} {front : List α} (absent : c ∉ front.map Letter.char)
    (rest : List α) :
    (front ++ rest).takeWhile (Letter.char · ≠ c) =
      front ++ rest.takeWhile (Letter.char · ≠ c) := by
  apply List.takeWhile_append_of_pos
  intro letter member
  rw [decide_eq_true_iff]
  rintro rfl
  exact absent (List.mem_map_of_mem member)

/-- What comes before the first occurrence of a character is passed over. -/
theorem dropWhile_ne {c : Char} {front : List α} (absent : c ∉ front.map Letter.char)
    (rest : List α) :
    (front ++ rest).dropWhile (Letter.char · ≠ c) = rest.dropWhile (Letter.char · ≠ c) := by
  apply List.dropWhile_append_of_pos
  intro letter member
  rw [decide_eq_true_iff]
  rintro rfl
  exact absent (List.mem_map_of_mem member)

/-! ### Parameters -/

/-- The last segment of a path, and what comes before it. -/
theorem exists_segment (path : List Char) :
    ∃ front segment, path = front ++ segment ∧ '/' ∉ segment ∧
      ∀ before, ∃ before', before ++ '/' :: front = before' ++ ['/'] := by
  by_cases slash : '/' ∈ path
  · obtain ⟨reversed, front, eq, last⟩ :=
      List.eq_append_cons_of_mem (List.mem_reverse.mpr slash)
    refine ⟨front.reverse ++ ['/'], reversed.reverse, ?_, by simpa using last, fun before => ?_⟩
    · rw [← List.reverse_reverse path, eq]
      simp
    · exact ⟨before ++ '/' :: front.reverse, by simp⟩
  · exact ⟨[], path, rfl, slash, fun before => ⟨before, rfl⟩⟩

/-- The last segment of a path is what follows its last slash. -/
theorem afterLast_append {segment : List Char} (last : '/' ∉ segment) (front : List Char) :
    afterLast '/' (front ++ '/' :: segment) = segment := by
  have turned : (front ++ '/' :: segment).reverse = segment.reverse ++ '/' :: front.reverse := by
    simp
  rw [afterLast, turned, takeWhile_ne (by simpa using last)]
  simp

/-- A path loses what a semicolon begins in its last segment. -/
theorem cutParameters_append {segment : List Char} (last : '/' ∉ segment) (front : List Char) :
    cutParameters (front ++ '/' :: segment) =
      front ++ '/' :: segment.takeWhile (Letter.char · ≠ ';') := by
  have kept : (front ++ '/' :: segment).length - segment.length = (front ++ ['/']).length := by
    simp only [List.length_append, List.length_cons, List.length_nil]
    omega
  have joined : front ++ '/' :: segment = (front ++ ['/']) ++ segment := by simp
  rw [cutParameters, afterLast_append last, kept, joined, List.take_left]
  simp

/-- Without parameters there is no semicolon in the last segment. -/
theorem semicolon_notMem {front segment : List Char} (none : ¬CarriesParameters (front ++ segment))
    (last : '/' ∉ segment) : ';' ∉ segment := by
  intro member
  obtain ⟨before, after, rfl, -⟩ := List.eq_append_cons_of_mem member
  refine none ⟨front ++ before, after, by simp, fun slash => last ?_⟩
  exact List.mem_append_right before (List.mem_cons_of_mem ';' slash)

/-- What comes before the parameters is left of a path. -/
theorem cutParameters_eq {path kept : List Char} (h : WithoutParameters path kept)
    (front : List Char) : cutParameters (front ++ '/' :: path) = front ++ '/' :: kept := by
  cases h with
  | whole none =>
    obtain ⟨before, segment, rfl, last, led⟩ := exists_segment path
    obtain ⟨lead, eq⟩ := led front
    have joined : front ++ '/' :: (before ++ segment) = lead ++ '/' :: segment := by
      rw [← List.cons_append, ← List.append_assoc, eq]
      simp
    have absent : ';' ∉ segment.map Letter.char := by simpa using semicolon_notMem none last
    have all := takeWhile_ne absent []
    rw [List.append_nil, List.takeWhile_nil, List.append_nil] at all
    rw [joined, cutParameters_append last, all]
  | @cut _ parameters behind first =>
    obtain ⟨before, segment, rfl, last, led⟩ := exists_segment kept
    obtain ⟨lead, eq⟩ := led front
    have joined : ∀ rest, front ++ '/' :: (before ++ rest) = lead ++ '/' :: rest := by
      intro rest
      rw [← List.cons_append, ← List.append_assoc, eq]
      simp
    have whole : '/' ∉ segment ++ ';' :: parameters := by
      simp only [List.mem_append, List.mem_cons, not_or]
      exact ⟨last, by decide, behind⟩
    rw [List.append_assoc, joined, joined, cutParameters_append whole,
      takeWhile_ne (by simpa using semicolon_notMem first last)]
    simp

/-- Of every path there is something that comes before its parameters. -/
theorem exists_withoutParameters (path : List Char) : ∃ kept, WithoutParameters path kept := by
  induction eq : path.length using Nat.strongRecOn generalizing path with
  | ind n ih =>
    by_cases carries : CarriesParameters path
    · obtain ⟨before, after, rfl, last⟩ := carries
      have shorter : before.length < n := by
        simp only [List.length_append, List.length_cons] at eq
        omega
      obtain ⟨kept, h⟩ := ih before.length shorter before rfl
      cases h with
      | whole none => exact ⟨before, .cut last none⟩
      | @cut _ parameters behind first =>
        have all : '/' ∉ parameters ++ ';' :: after := by
          simp only [List.mem_append, List.mem_cons, not_or]
          exact ⟨behind, by decide, last⟩
        refine ⟨kept, ?_⟩
        rw [List.append_assoc, List.cons_append]
        exact .cut all first
    · exact ⟨path, .whole carries⟩

/-! ### From the address to its path -/

/-- A character of a host neither ends it nor is dropped, and is no bracket. -/
theorem notMem_of_isHostChar {c : Char} (h : isHostChar c = true) :
    c ∉ ['/', '?', '#', '[', ']', '\t', '\n', '\r'] := by
  have none : ['/', '?', '#', '[', ']', '\t', '\n', '\r'].any isHostChar = false := rfl
  intro member
  exact List.any_eq_false.mp none c member h

/-- The compatible form of a character of a host keeps the structure. -/
theorem structuralForms_of_isHostChar {c : Char} (h : isHostChar c = true) :
    structuralForms.contains c.toNat = false := by
  have beyond : ∀ n ∈ structuralForms, 128 ≤ n := by decide
  cases form : structuralForms.contains c.toNat with
  | false => rfl
  | true =>
    have large := beyond c.toNat (List.contains_iff_mem.mp form)
    simp only [isHostChar, Text.isAsciiLetter, Text.isAsciiDigit, form, Bool.or_eq_true,
      Bool.and_eq_true, decide_eq_true_eq, Bool.not_true, Bool.false_eq_true, and_false,
      or_false] at h
    rcases h with ((letter | digit) | rfl) | rfl
    · omega
    · omega
    all_goals contradiction

/-- Nothing is wrong with the location that a plain host makes up. -/
theorem check_of_host {host : List Char} (plain : ∀ c ∈ host, isHostChar c = true) :
    checkBrackets host = none ∧ checkCharacters host = none := by
  have absent : ∀ bracket ∈ ['[', ']'], host.contains bracket = false := by
    intro bracket isBracket
    cases found : host.contains bracket with
    | false => rfl
    | true =>
      refine absurd ?_ (notMem_of_isHostChar (plain bracket (List.contains_iff_mem.mp found)))
      simp only [List.mem_cons, List.not_mem_nil, or_false] at isBracket
      rcases isBracket with rfl | rfl <;> decide
  refine ⟨?_, ?_⟩
  · rw [checkBrackets, Text.map_letter, absent '[' (by decide), absent ']' (by decide)]
  · have kept : (host.any fun c => structuralForms.contains (Letter.char c).toNat) = false := by
      rw [List.any_eq_false]
      intro c member
      rw [Text.letter_char, structuralForms_of_isHostChar (plain c member)]
      exact Bool.false_ne_true
    rw [checkCharacters, kept]
    rfl

/-- The scheme of an address that begins with it. -/
theorem takeScheme_https (rest : List Char) :
    takeScheme ("https:".toList ++ rest) = ("https".toList, rest) := rfl

/-- The location of a plain host ends before the path. -/
theorem takeLocation_of_host {host : List Char} (plain : ∀ c ∈ host, isHostChar c = true)
    (rest : List Char) :
    takeLocation ("//".toList ++ (host ++ '/' :: rest)) = (host, '/' :: rest) := by
  have within : ∀ c ∈ host, (!endsLocation c) = true := by
    intro c member
    have not := notMem_of_isHostChar (plain c member)
    simp only [List.mem_cons, not_or] at not
    simp [endsLocation, not]
  have located : takeLocation ("//".toList ++ (host ++ '/' :: rest)) =
      ((host ++ '/' :: rest).takeWhile fun c => !endsLocation c,
        (host ++ '/' :: rest).dropWhile fun c => !endsLocation c) := rfl
  rw [located, List.takeWhile_append_of_pos within, List.dropWhile_append_of_pos within]
  simp [endsLocation]

/-- Behind a scheme and two slashes, line ends and tabs are dropped. -/
theorem clean_https (rest : List Char) :
    clean ("https://".toList ++ rest) = "https:".toList ++ ("//".toList ++
      rest.filter fun c => c ≠ '\t' && c ≠ '\n' && c ≠ '\r') := rfl

/-- Nothing is dropped from characters that are neither line ends nor tabs. -/
theorem filter_of_notMem {cs : List Char} (none : ∀ c ∈ cs, c ∉ ['\t', '\n', '\r']) :
    (cs.filter fun c => c ≠ '\t' && c ≠ '\n' && c ≠ '\r') = cs := by
  rw [List.filter_eq_self]
  intro c member
  have not := none c member
  simp only [List.mem_cons, not_or] at not
  simp [not]

/-- Host and path are left as they are; what is dropped is dropped from the query. -/
theorem clean_of_host {host path : List Char} (plain : ∀ c ∈ host, isHostChar c = true)
    (inPath : ∀ c ∈ path, c ∉ ['?', '#', '\t', '\n', '\r']) (query : List Char) :
    ∃ query', clean ("https://".toList ++ (host ++ '/' :: (path ++ '?' :: query))) =
      "https:".toList ++ ("//".toList ++ (host ++ '/' :: (path ++ '?' :: query'))) := by
  have hostKept := filter_of_notMem fun c member =>
    mt (List.mem_append_right ['/', '?', '#', '[', ']']) (notMem_of_isHostChar (plain c member))
  have pathKept := filter_of_notMem fun c member =>
    mt (List.mem_append_right ['?', '#']) (inPath c member)
  refine ⟨query.filter fun c => c ≠ '\t' && c ≠ '\n' && c ≠ '\r', ?_⟩
  rw [clean_https, List.filter_append, hostKept, List.filter_cons_of_pos rfl, List.filter_append,
    pathKept, List.filter_cons_of_pos rfl]

/-- The path of an address with a plain host is what stands between host and query. -/
theorem path_of_host {host path : List Char} (plain : ∀ c ∈ host, isHostChar c = true)
    (inPath : ∀ c ∈ path, c ∉ ['?', '#', '\t', '\n', '\r']) (query : List Char) :
    Url.path ("https://".toList ++ (host ++ '/' :: (path ++ '?' :: query))) =
      .ok (cutParameters ('/' :: path)) := by
  obtain ⟨query', cleaned⟩ := clean_of_host plain inPath query
  obtain ⟨brackets, characters⟩ := check_of_host plain
  have absent : ∀ c ∈ ['#', '?'], c ∉ '/' :: path := by
    intro c isEnd member
    simp only [List.mem_cons, List.not_mem_nil, or_false] at isEnd
    rcases List.mem_cons.mp member with rfl | member
    · rcases isEnd with isEnd | isEnd <;> contradiction
    · refine inPath c member ?_
      rcases isEnd with rfl | rfl <;> decide
  have whole : (('/' :: (path ++ '?' :: query')).takeWhile (Letter.char · ≠ '#')).takeWhile
      (Letter.char · ≠ '?') = '/' :: path := by
    rw [← List.cons_append, takeWhile_ne (by simpa using absent '#' (by decide)),
      takeWhile_ne (by simpa using absent '?' (by decide))]
    simp
  have parameters : String.ofList "https".toList ∈ parameterSchemes := by decide
  rw [Url.path, cleaned, takeScheme_https]
  dsimp only
  rw [takeLocation_of_host plain]
  dsimp only
  rw [brackets, characters, whole, if_pos parameters]

end ResumableUpload.Url
