import ResumableUpload.Json.Insertion
import ResumableUpload.Proofs.Json.Reader
import ResumableUpload.Proofs.Json.Writer

/-!
# Reading members that were added

Where a closing brace may stand, every token before it is complete, and so are the tokens before a
comma in its place. So the tokens of an object divide between its members, and members that are
added to its text are added to the object: the others are read as before.

## Main definitions

* `Completes` — the tokens that characters complete before a delimiter.

## Main results

* `completes_of_tokensFrom` — what stands before a closing brace.
* `AddsMembers.read` — the object with more members.
-/

namespace ResumableUpload.Json

variable {width : Nat}

/-! ### Scanning -/

/-- Before a delimiter, the characters complete these tokens. -/
def Completes (width : Nat) (mode : Mode) (cs : List Char) (tokens : List Token) : Prop :=
  ∀ (done : List Token) (c : Char) (token : Token) (rest : List Char), Delimits c token →
    tokensFrom width mode done (cs ++ c :: rest) =
      tokensFrom width .between (token :: (tokens.reverse ++ done)) rest

/-- Tokens that are done stand before those that follow. -/
theorem tokensFrom_done (mode : Mode) (done : List Token) (cs : List Char) :
    tokensFrom width mode done cs = (tokensFrom width mode [] cs).map (done.reverse ++ ·) := by
  induction cs generalizing mode done with
  | nil =>
    rw [tokensFrom, tokensFrom, Option.map_map]
    rfl
  | cons c cs ih =>
    rw [tokensFrom, tokensFrom]
    cases mode.step width c with
    | none => rfl
    | some next =>
      obtain ⟨mode', tokens⟩ := next
      dsimp only
      rw [ih mode' (tokens.reverse ++ done), ih mode' (tokens.reverse ++ []), Option.map_map]
      congr 1
      funext rest
      simp

/-- A delimiter ends a bare word. -/
theorem step_word {c : Char} {token : Token} (delimits : Delimits c token) (chars : List Char) :
    (Mode.word chars).step width c =
      (wordValue? width chars.reverse).map fun v => (.between, [.scalar v, token]) := by
  rw [Mode.step, if_neg (by rw [delimits.not_word]; exact Bool.false_ne_true), delimits.begins]
  cases wordValue? width chars.reverse <;> rfl

/-- Nothing is pending in a mode in which a closing brace may follow, but perhaps a bare word. -/
theorem completes_nil {mode : Mode} {done tokens : List Token}
    (h : tokensFrom width mode done ['\x7d'] = some tokens) :
    ∃ pending, Completes width mode [] pending ∧
      tokens = done.reverse ++ pending ++ [.closeObject] := by
  cases mode with
  | between =>
    refine ⟨[], fun done c token rest delimits => ?_, ?_⟩
    · rw [List.nil_append, tokensFrom, Mode.step, delimits.begins]
      rfl
    · have ended : tokensFrom width .between done ['\x7d'] =
          some ((Token.closeObject :: done).reverse ++ []) := rfl
      rw [ended] at h
      simpa using (Option.some.inj h).symm
  | word chars =>
    rw [tokensFrom, step_word delimits_brace] at h
    cases value : wordValue? width chars.reverse with
    | none =>
      rw [value] at h
      contradiction
    | some v =>
      rw [value] at h
      refine ⟨[.scalar v], fun done c token rest delimits => ?_, ?_⟩
      · rw [List.nil_append, tokensFrom, step_word delimits, value]
        rfl
      · rw [← Option.some.inj h]
        simp
  | text read => contradiction
  | escape read => contradiction
  | unit read high count value => contradiction
  | pair read high => contradiction
  | pairEscape read high => contradiction

/-- What stands before a closing brace completes its tokens before any delimiter. -/
theorem completes_of_tokensFrom {mode : Mode} {done tokens : List Token} {cs : List Char}
    (h : tokensFrom width mode done (cs ++ ['\x7d']) = some tokens) :
    ∃ own, Completes width mode cs own ∧ tokens = done.reverse ++ own ++ [.closeObject] := by
  induction cs generalizing mode done with
  | nil => exact completes_nil h
  | cons d cs ih =>
    rw [List.cons_append, tokensFrom] at h
    cases next : mode.step width d with
    | none =>
      rw [next] at h
      contradiction
    | some result =>
      obtain ⟨mode', first⟩ := result
      rw [next] at h
      obtain ⟨own, completes, rfl⟩ := ih h
      refine ⟨first ++ own, fun done c token rest delimits => ?_, by simp⟩
      rw [List.cons_append, tokensFrom, next]
      dsimp only
      rw [completes _ c token rest delimits, List.reverse_append, List.append_assoc]

/-- Characters between tokens complete none. -/
theorem tokensFrom_spaces {lead : List Char} (spaces : lead.all isSpace = true)
    (done : List Token) (rest : List Char) :
    tokensFrom width .between done (lead ++ rest) = tokensFrom width .between done rest := by
  induction lead with
  | nil => rfl
  | cons c lead ih =>
    rw [List.all_cons, Bool.and_eq_true] at spaces
    obtain ⟨space, spaces⟩ := spaces
    have passed : Mode.between.step width c = some (.between, []) := by
      simp only [isSpace, Bool.or_eq_true, decide_eq_true_eq, or_assoc] at space
      rw [Mode.step, begin?, if_pos space]
    rw [List.cons_append, tokensFrom, passed]
    exact ih spaces

/-! ### Members between braces -/

/-- When a text is read as a value. -/
theorem read_eq_some_iff {limits : Limits} {s : String} {v : Value} :
    read limits s = some v ↔ ∃ tokens r, tokenize limits.width s = some tokens ∧
      Reader.run limits.nesting ⟨[], .value⟩ tokens = some r ∧ r.result? = some v := by
  simp only [read, Option.bind_eq_bind, Option.bind_eq_some_iff]
  constructor
  · rintro ⟨tokens, scanned, r, run, result⟩
    exact ⟨tokens, r, scanned, run, result⟩
  · rintro ⟨tokens, r, scanned, run, result⟩
    exact ⟨tokens, scanned, r, run, result⟩

/-- What is inside the braces of an object with members. -/
theorem exists_inside {limits : Limits} {inserted : String} {added : Fields}
    (new : read limits ("\x7b" ++ inserted ++ "\x7d") = some (.object added))
    (ne : added ≠ []) :
    ∃ tokens, Completes limits.width .between inserted.toList tokens ∧
      Reader.run limits.nesting ⟨[.object []], .firstName⟩ tokens =
        some ⟨[.object added.reverse], .separator⟩ := by
  obtain ⟨all, r, scanned, run, result⟩ := read_eq_some_iff.mp new
  have opened : tokensFrom limits.width .between [.openObject] (inserted.toList ++ ['\x7d']) =
      some all := by
    rw [← scanned, tokenize]
    simp only [String.toList_append]
    rfl
  obtain ⟨tokens, completes, rfl⟩ := completes_of_tokensFrom opened
  have stepped : Reader.Stepped ⟨[.object []], .firstName⟩ :=
    ⟨.inl (List.cons_ne_nil _ _), fun _ => ⟨[], rfl⟩⟩
  exact ⟨tokens, completes, Reader.run_before_closeObject stepped ne run result⟩

/-- What stands before the closing brace of an object with members. -/
theorem exists_front {limits : Limits} {front : String} {first : Fields}
    (before : read limits (front ++ "\x7d") = some (.object first)) (ne : first ≠ []) :
    ∃ tokens, Completes limits.width .between front.toList tokens ∧
      Reader.run limits.nesting ⟨[], .value⟩ tokens =
        some ⟨[.object first.reverse], .separator⟩ := by
  obtain ⟨all, r, scanned, run, result⟩ := read_eq_some_iff.mp before
  rw [tokenize, String.toList_append] at scanned
  obtain ⟨tokens, completes, rfl⟩ := completes_of_tokensFrom scanned
  exact ⟨tokens, completes, Reader.run_before_closeObject_of_start ne run result⟩

/-! ### Adding members -/

variable {limits : Limits} {added : Fields}

/-- Members behind a member. -/
theorem read_behind {front inserted separator rest : String} {first members : Fields}
    (new : read limits ("\x7b" ++ inserted ++ "\x7d") = some (.object added)) (new_ne : added ≠ [])
    (before : read limits (front ++ "\x7d") = some (.object first)) (before_ne : first ≠ [])
    (separates : separator = "," ∨ separator = "\x7d")
    (whole : read limits (front ++ separator ++ rest) = some (.object members)) :
    ∃ last, members = first ++ last ∧
      read limits (front ++ "," ++ inserted ++ separator ++ rest) =
        some (.object (first ++ added ++ last)) := by
  obtain ⟨c, token, chars, delimits⟩ : ∃ c token, separator.toList = [c] ∧ Delimits c token := by
    rcases separates with rfl | rfl
    · exact ⟨',', .comma, rfl, delimits_comma⟩
    · exact ⟨'\x7d', .closeObject, rfl, delimits_brace⟩
  obtain ⟨frontTokens, frontCompletes, frontRun⟩ := exists_front before before_ne
  obtain ⟨newTokens, newCompletes, newRun⟩ := exists_inside new new_ne
  obtain ⟨all, r, scanned, run, result⟩ := read_eq_some_iff.mp whole
  -- The text as it was gives the members that follow.
  have letters : (front ++ separator ++ rest).toList = front.toList ++ c :: rest.toList := by
    simp [chars]
  rw [tokenize, letters, frontCompletes _ c token _ delimits, tokensFrom_done] at scanned
  obtain ⟨restTokens, restScanned, rfl⟩ := Option.map_eq_some_iff.mp scanned
  rw [List.append_nil, List.reverse_cons, List.reverse_reverse, List.append_assoc,
    List.singleton_append, Reader.run_append, frontRun, Option.bind_some] at run
  obtain ⟨last, rfl, others⟩ := Reader.run_rest (.inl rfl) run result
  rw [List.reverse_reverse]
  refine ⟨last, rfl, ?_⟩
  -- They follow the new members in the same way.
  obtain ⟨r', restRun, restResult⟩ := others (added.reverse ++ first.reverse)
  have letters' : (front ++ "," ++ inserted ++ separator ++ rest).toList =
      front.toList ++ ',' :: (inserted.toList ++ c :: rest.toList) := by
    simp [chars]
  refine read_eq_some_iff.mpr
    ⟨frontTokens ++ .comma :: (newTokens ++ token :: restTokens), r', ?_, ?_, ?_⟩
  · rw [tokenize, letters', frontCompletes _ ',' .comma _ delimits_comma,
      newCompletes _ c token _ delimits, tokensFrom_done, restScanned]
    simp
  · have comma : ∀ tokens, Reader.run limits.nesting ⟨[.object first.reverse], .separator⟩
        (.comma :: tokens) =
        Reader.run limits.nesting ⟨[.object first.reverse], .name⟩ tokens := fun _ => rfl
    rw [Reader.run_append, frontRun, Option.bind_some, comma, Reader.run_append,
      Reader.run_members newRun, Option.bind_some, restRun]
  · rw [restResult]
    simp

/-- An opening brace begins an object. -/
theorem tokenize_openObject {lead rest : String} (spaces : lead.toList.all isSpace = true) :
    tokenize width (lead ++ "\x7b" ++ rest) =
      (tokensFrom width .between [] rest.toList).map (.openObject :: ·) := by
  have letters : (lead ++ "\x7b" ++ rest).toList = lead.toList ++ '\x7b' :: rest.toList := by simp
  have brace : ∀ cs, tokensFrom width .between [] ('\x7b' :: cs) =
      tokensFrom width .between [.openObject] cs := fun _ => rfl
  rw [tokenize, letters, tokensFrom_spaces spaces, brace, tokensFrom_done]
  rfl

/-- Members in front of the first one. -/
theorem read_before {lead inserted rest : String} {members : Fields}
    (new : read limits ("\x7b" ++ inserted ++ "\x7d") = some (.object added)) (new_ne : added ≠ [])
    (spaces : lead.toList.all isSpace = true)
    (whole : read limits (lead ++ "\x7b" ++ rest) = some (.object members))
    (whole_ne : members ≠ []) :
    read limits (lead ++ "\x7b" ++ inserted ++ "," ++ rest) =
      some (.object (added ++ members)) := by
  obtain ⟨newTokens, newCompletes, newRun⟩ := exists_inside new new_ne
  obtain ⟨all, r, scanned, run, result⟩ := read_eq_some_iff.mp whole
  rw [tokenize_openObject spaces] at scanned
  obtain ⟨restTokens, restScanned, rfl⟩ := Option.map_eq_some_iff.mp scanned
  have run : Reader.run limits.nesting ⟨[.object []], .firstName⟩ restTokens = some r := run
  obtain rfl | rfl | named := Reader.run_firstName run
  · contradiction
  · exact absurd (Value.object.inj (Option.some.inj result)).symm whole_ne
  · obtain ⟨last, rfl, others⟩ := Reader.run_rest (.inr rfl) named result
    obtain ⟨r', restRun, restResult⟩ := others added.reverse
    have letters : lead ++ "\x7b" ++ inserted ++ "," ++ rest =
        lead ++ "\x7b" ++ (inserted ++ "," ++ rest) := by
      simp only [String.append_assoc]
    have letters' : (inserted ++ "," ++ rest).toList = inserted.toList ++ ',' :: rest.toList := by
      simp
    refine read_eq_some_iff.mpr
      ⟨.openObject :: (newTokens ++ .comma :: restTokens), r', ?_, ?_, ?_⟩
    · rw [letters, tokenize_openObject spaces, letters', newCompletes _ ',' .comma _ delimits_comma,
        tokensFrom_done, restScanned]
      simp
    · have opened : Reader.run limits.nesting ⟨[], .value⟩
          (.openObject :: (newTokens ++ .comma :: restTokens)) =
          Reader.run limits.nesting ⟨[.object []], .firstName⟩
            (newTokens ++ .comma :: restTokens) := rfl
      rw [opened, Reader.run_append, newRun, Option.bind_some, ← restRun]
      rfl
    · rw [restResult]
      simp

/-- Nothing but spaces ends a text. -/
theorem tokensFrom_end {rest : List Char} (spaces : rest.all isSpace = true) (done : List Token) :
    tokensFrom width .between done rest = some done.reverse := by
  rw [← List.append_nil rest, tokensFrom_spaces spaces, tokensFrom, Mode.close?, Option.map_some,
    List.append_nil]

/-- Members of an object that has none. -/
theorem read_only {lead inserted inner rest : String}
    (new : read limits ("\x7b" ++ inserted ++ "\x7d") = some (.object added)) (new_ne : added ≠ [])
    (spaces : (lead ++ inner ++ rest).toList.all isSpace = true) :
    read limits (lead ++ "\x7b" ++ inner ++ "\x7d" ++ rest) = some (.object []) ∧
      read limits (lead ++ "\x7b" ++ inserted ++ "\x7d" ++ rest) = some (.object added) := by
  obtain ⟨newTokens, newCompletes, newRun⟩ := exists_inside new new_ne
  simp only [String.toList_append, List.all_append, Bool.and_eq_true] at spaces
  obtain ⟨⟨leadSpaces, innerSpaces⟩, restSpaces⟩ := spaces
  have grouped : ∀ inside, lead ++ "\x7b" ++ inside ++ "\x7d" ++ rest =
      lead ++ "\x7b" ++ (inside ++ "\x7d" ++ rest) := by
    intro inside
    simp only [String.append_assoc]
  have letters : ∀ inside : String, (inside ++ "\x7d" ++ rest).toList =
      inside.toList ++ '\x7d' :: rest.toList := by
    intro inside
    simp
  constructor
  · refine read_eq_some_iff.mpr
      ⟨[.openObject, .closeObject], ⟨[], .finished (.object [])⟩, ?_, rfl, rfl⟩
    have brace : ∀ cs, tokensFrom limits.width .between [] ('\x7d' :: cs) =
        tokensFrom limits.width .between [.closeObject] cs := fun _ => rfl
    rw [grouped, tokenize_openObject leadSpaces, letters, tokensFrom_spaces innerSpaces, brace,
      tokensFrom_end restSpaces]
    rfl
  · refine read_eq_some_iff.mpr ⟨.openObject :: (newTokens ++ [.closeObject]),
      ⟨[], .finished (.object added)⟩, ?_, ?_, rfl⟩
    · rw [grouped, tokenize_openObject leadSpaces, letters,
        newCompletes _ _ _ _ delimits_brace, tokensFrom_end restSpaces]
      simp
    · have opened : Reader.run limits.nesting ⟨[], .value⟩
          (.openObject :: (newTokens ++ [.closeObject])) =
          Reader.run limits.nesting ⟨[.object []], .firstName⟩ (newTokens ++ [.closeObject]) := rfl
      have closed : Reader.run limits.nesting ⟨[.object added.reverse], .separator⟩
          [.closeObject] = some ⟨[], .finished (.object added.reverse.reverse)⟩ := rfl
      rw [opened, Reader.run_append, newRun, Option.bind_some, closed, List.reverse_reverse]

/-- Members that are added to the text of an object are added to the object. -/
theorem AddsMembers.read {document document' : String}
    (adds : AddsMembers limits added document document') :
    ∃ first last, Json.read limits document = some (.object (first ++ last)) ∧
      Json.read limits document' = some (.object (first ++ added ++ last)) := by
  cases adds with
  | @behind _ _ _ _ first _ new new_ne before before_ne separates whole =>
    obtain ⟨last, rfl, read⟩ := read_behind new new_ne before before_ne separates whole
    exact ⟨first, last, whole, read⟩
  | @before _ _ _ members new new_ne spaces whole whole_ne =>
    exact ⟨[], members, whole, read_before new new_ne spaces whole whole_ne⟩
  | only new new_ne spaces =>
    obtain ⟨empty, read⟩ := read_only new new_ne spaces
    exact ⟨[], [], empty, by rw [read, List.nil_append, List.append_nil]⟩

/-! ### Nesting -/

/-- A row of one punctuation mark. -/
theorem tokensFrom_replicate {c : Char} {token : Token}
    (begins : begin? c = some (.between, [token])) (n : Nat) (done : List Token)
    (rest : List Char) :
    tokensFrom width .between done (List.replicate n c ++ rest) =
      tokensFrom width .between (List.replicate n token ++ done) rest := by
  induction n generalizing done with
  | zero => rfl
  | succ n ih =>
    rw [List.replicate_succ, List.cons_append, tokensFrom, Mode.step, begins]
    dsimp only
    rw [ih, List.replicate_succ', List.append_assoc]
    rfl

/-- The tokens of lists in lists. -/
theorem tokenize_lists (n m : Nat) :
    tokenize width (String.ofList (List.replicate n '[') ++ String.ofList (List.replicate m ']')) =
      some (List.replicate n .openList ++ List.replicate m .closeList) := by
  rw [tokenize, String.toList_append, String.toList_ofList, String.toList_ofList,
    tokensFrom_replicate rfl, ← List.append_nil (List.replicate m ']'), tokensFrom_replicate rfl,
    tokensFrom, Mode.close?]
  simp

/-- Behind a member, lists are refused that are nested too deeply together with the object. -/
theorem read_nested {front rest : String} {first : Fields} {n : Nat}
    (before : read limits (front ++ "\x7d") = some (.object first)) (before_ne : first ≠ [])
    (deep : limits.nesting ≤ n) :
    read limits (front ++ ",\"x\":" ++ String.ofList (List.replicate (n + 1) '[') ++ rest) =
      none := by
  obtain ⟨frontTokens, frontCompletes, frontRun⟩ := exists_front before before_ne
  rw [Option.eq_none_iff_forall_ne_some]
  intro v read
  obtain ⟨all, r, scanned, run, -⟩ := read_eq_some_iff.mp read
  have letters : (front ++ ",\"x\":" ++ String.ofList (List.replicate (n + 1) '[') ++ rest).toList =
      front.toList ++ ',' :: ("\"x\":".toList ++ (List.replicate (n + 1) '[' ++ rest.toList)) := by
    simp
  have named : ∀ done cs, tokensFrom limits.width .between done ("\"x\":".toList ++ cs) =
      tokensFrom limits.width .between (.colon :: .text "x" :: done) cs := fun _ _ => rfl
  rw [tokenize, letters, frontCompletes _ ',' .comma _ delimits_comma, named,
    tokensFrom_replicate rfl, tokensFrom_done] at scanned
  obtain ⟨restTokens, -, rfl⟩ := Option.map_eq_some_iff.mp scanned
  have tokens : (List.replicate (n + 1) Token.openList ++
        (Token.colon :: Token.text "x" :: Token.comma :: (frontTokens.reverse ++ []))).reverse ++
        restTokens =
      frontTokens ++ (Token.comma :: Token.text "x" :: Token.colon ::
        (List.replicate (n + 1) Token.openList ++ restTokens)) := by
    simp
  have member : ∀ tokens, Reader.run limits.nesting ⟨[.object first.reverse], .separator⟩
      (.comma :: .text "x" :: .colon :: tokens) =
      Reader.run limits.nesting ⟨[.member first.reverse "x"], .value⟩ tokens := fun _ => rfl
  have inside : limits.nesting < [Frame.member first.reverse "x"].length + n := by
    rw [List.length_singleton]
    omega
  rw [tokens, Reader.run_append, frontRun, Option.bind_some, member,
    Reader.run_openLists (.inl rfl) inside] at run
  contradiction

end ResumableUpload.Json
