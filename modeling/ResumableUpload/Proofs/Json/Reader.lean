import ResumableUpload.Proofs.Json.Document

/-!
# Members that are finished

The reader does not look at members that are finished. With more of them in the outermost object it
makes the same steps, and the document has these members in front of the others. So an object can be
read from any point between two of its members on, whatever came before.

## Main definitions

* `Reader.below` — a reader with more members finished in its outermost object.
* `Reader.Stepped` — what holds of a reader after a token.

## Main results

* `Reader.run_below` — a row of tokens is read alike with more members below.
* `Reader.run_before_closeObject` — before the last brace all members are finished.
* `Reader.run_rest`, `Reader.run_members` — the rest of an object, and members behind others.
* `Reader.run_openLists` — lists that are nested too deeply.
-/

namespace ResumableUpload.Json.Reader

variable {limit : Nat}

/-! ### Members below -/

/-- The stack with more members finished in the outermost container, if that is an object. -/
def belowStack (done : Fields) : List Frame → List Frame
  | [] => []
  | [.list items] => [.list items]
  | [.object members] => [.object (members ++ done)]
  | [.member members name] => [.member (members ++ done) name]
  | frame :: next :: stack => frame :: belowStack done (next :: stack)

/-- The document with more members in front, if it is an object. -/
def belowValue (done : Fields) : Value → Value
  | .object members => .object (done.reverse ++ members)
  | v => v

/-- The phase when there are more members below. -/
def belowPhase (done : Fields) : Phase → Phase
  | .finished v => .finished (belowValue done v)
  | phase => phase

/-- The reader with more members finished in its outermost object. -/
def below (done : Fields) (r : Reader) : Reader :=
  ⟨belowStack done r.stack, belowPhase done r.phase⟩

variable (done : Fields)

/-- No container is opened or closed. -/
theorem length_belowStack (stack : List Frame) : (belowStack done stack).length = stack.length := by
  induction stack with
  | nil => rfl
  | cons frame stack ih =>
    cases stack with
    | nil => cases frame <;> rfl
    | cons next stack => rw [belowStack, List.length_cons, List.length_cons, ih]

/-- Putting a value into an open container. -/
theorem deliver_below (v : Value) {stack : List Frame} (ne : stack ≠ []) :
    deliver v (belowStack done stack) = (deliver v stack).map (below done) := by
  match stack with
  | [.list _] | [.object _] | [.member _ _] => rfl
  | .list _ :: _ :: _ | .object _ :: _ :: _ | .member _ _ :: _ :: _ => rfl

/-- Beginning a value inside an open container. -/
theorem openValue_below {stack : List Frame} (ne : stack ≠ []) (token : Token) :
    openValue (belowStack done stack) token = (openValue stack token).map (below done) := by
  obtain ⟨frame, stack, rfl⟩ := List.exists_cons_of_ne_nil ne
  cases token with
  | text s => exact deliver_below done (.text s) ne
  | scalar v => exact deliver_below done v ne
  | openObject | openList | closeObject | closeList | colon | comma => rfl

/-- Beginning a value that is not nested too deeply. -/
theorem beginValue_below {stack : List Frame} (ne : stack ≠ []) (token : Token) :
    beginValue limit (belowStack done stack) token =
      (beginValue limit stack token).map (below done) := by
  rw [beginValue, beginValue, length_belowStack, openValue_below done ne]
  split <;> rfl

/-- Beginning a member. -/
theorem beginMember_below (stack : List Frame) (token : Token) :
    beginMember (belowStack done stack) token = (beginMember stack token).map (below done) := by
  cases token with
  | text name =>
    match stack with
    | [] | [.list _] | [.object _] | [.member _ _] => rfl
    | .list _ :: _ :: _ | .object _ :: _ :: _ | .member _ _ :: _ :: _ => rfl
  | scalar v => rfl
  | openObject | openList | closeObject | closeList | colon | comma => rfl

/-- Ending a container or continuing it. -/
theorem continueContainer_below (stack : List Frame) (token : Token) :
    continueContainer (belowStack done stack) token =
      (continueContainer stack token).map (below done) := by
  match stack with
  | [] | [.list _] | [.member _ _] => cases token <;> rfl
  | [.object members] =>
    cases token with
    | closeObject =>
      have closed : continueContainer [.object (members ++ done)] .closeObject =
          some ⟨[], .finished (.object (members ++ done).reverse)⟩ := rfl
      rw [belowStack, closed, List.reverse_append]
      rfl
    | text s => rfl
    | scalar v => rfl
    | openObject | openList | closeList | colon | comma => rfl
  | .list items :: next :: stack =>
    cases token with
    | closeList => exact deliver_below done (.list items.reverse) (List.cons_ne_nil next stack)
    | text s => rfl
    | scalar v => rfl
    | openObject | openList | closeObject | colon | comma => rfl
  | .object members :: next :: stack =>
    cases token with
    | closeObject =>
      exact deliver_below done (.object members.reverse) (List.cons_ne_nil next stack)
    | text s => rfl
    | scalar v => rfl
    | openObject | openList | closeList | colon | comma => rfl
  | .member _ _ :: next :: stack => cases token <;> rfl

/-- Inside a container, one more token is read alike with more members below. -/
theorem step_below {r : Reader} (ne : r.stack ≠ []) (token : Token) :
    (r.below done).step limit token = (r.step limit token).map (below done) := by
  obtain ⟨stack, phase⟩ := r
  cases phase with
  | value => exact beginValue_below done ne token
  | firstItem =>
    cases token with
    | closeList => exact continueContainer_below done stack .closeList
    | text s => exact beginValue_below done ne (.text s)
    | scalar v => exact beginValue_below done ne (.scalar v)
    | openObject | openList | closeObject | colon | comma => exact beginValue_below done ne _
  | firstName =>
    cases token with
    | closeObject => exact continueContainer_below done stack .closeObject
    | text s => exact beginMember_below done stack (.text s)
    | scalar v => exact beginMember_below done stack (.scalar v)
    | openObject | openList | closeList | colon | comma => rfl
  | name => exact beginMember_below done stack token
  | colon => cases token <;> rfl
  | separator => exact continueContainer_below done stack token
  | finished v => rfl

/-! ### After a token -/

/-- What holds after a token: a container is open or the document is complete, and an object whose
first name is due has no members. -/
structure Stepped (r : Reader) : Prop where
  /-- A container is open, or the document is complete. -/
  inside : r.stack ≠ [] ∨ ∃ v, r.phase = .finished v
  /-- An object whose first name is due has no members. -/
  fresh : r.phase = .firstName → ∃ outer, r.stack = .object [] :: outer

variable {r r' : Reader}

/-- After a finished value. -/
theorem stepped_deliver {v : Value} {stack : List Frame} (h : deliver v stack = some r) :
    Stepped r := by
  match stack with
  | [] =>
    obtain rfl := Option.some.inj h
    exact ⟨.inr ⟨v, rfl⟩, fun first => nomatch first⟩
  | .list items :: outer | .member members name :: outer =>
    obtain rfl := Option.some.inj h
    exact ⟨.inl (List.cons_ne_nil _ _), fun first => nomatch first⟩
  | .object members :: outer => contradiction

/-- After the first token of a value. -/
theorem stepped_beginValue {stack : List Frame} {token : Token}
    (h : beginValue limit stack token = some r) : Stepped r := by
  rw [beginValue] at h
  split at h
  · contradiction
  · cases token with
    | openObject =>
      obtain rfl := Option.some.inj h
      exact ⟨.inl (List.cons_ne_nil _ _), fun _ => ⟨stack, rfl⟩⟩
    | openList =>
      obtain rfl := Option.some.inj h
      exact ⟨.inl (List.cons_ne_nil _ _), fun first => nomatch first⟩
    | text s => exact stepped_deliver h
    | scalar v => exact stepped_deliver h
    | closeObject | closeList | colon | comma => contradiction

/-- After the name of a member. -/
theorem stepped_beginMember {stack : List Frame} {token : Token}
    (h : beginMember stack token = some r) : Stepped r := by
  unfold beginMember at h
  split at h
  · split at h
    · obtain rfl := Option.some.inj h
      refine ⟨.inl (List.cons_ne_nil _ _), fun first => ?_⟩
      contradiction
    · contradiction
  · contradiction

/-- After the end of a container or a comma in it. -/
theorem stepped_continueContainer {stack : List Frame} {token : Token}
    (h : continueContainer stack token = some r) : Stepped r := by
  unfold continueContainer at h
  split at h
  · exact stepped_deliver h
  · obtain rfl := Option.some.inj h
    exact ⟨.inl (List.cons_ne_nil _ _), fun first => nomatch first⟩
  · exact stepped_deliver h
  · obtain rfl := Option.some.inj h
    exact ⟨.inl (List.cons_ne_nil _ _), fun first => nomatch first⟩
  · contradiction

/-- After any token; a colon is due inside an object only. -/
theorem stepped_step {token : Token} (due : r.phase = .colon → r.stack ≠ [])
    (h : r.step limit token = some r') : Stepped r' := by
  obtain ⟨stack, phase⟩ := r
  cases phase with
  | value => exact stepped_beginValue h
  | firstItem =>
    unfold step at h
    dsimp only at h
    split at h
    · exact stepped_continueContainer h
    · exact stepped_beginValue h
  | firstName =>
    unfold step at h
    dsimp only at h
    split at h
    · exact stepped_continueContainer h
    · exact stepped_beginMember h
  | name => exact stepped_beginMember h
  | colon =>
    unfold step at h
    dsimp only at h
    split at h
    · obtain rfl := Option.some.inj h
      refine ⟨.inl (due rfl), fun first => ?_⟩
      contradiction
    · contradiction
  | separator => exact stepped_continueContainer h
  | finished v => contradiction

/-- After a token that follows others. -/
theorem Stepped.step (stepped : Stepped r) {token : Token} (h : r.step limit token = some r') :
    Stepped r' := by
  refine stepped_step (fun due => ?_) h
  obtain inside | ⟨v, finished⟩ := stepped.inside
  · exact inside
  · rw [due] at finished
    contradiction

/-- After a row of tokens that follows others. -/
theorem Stepped.run {tokens : List Token} (stepped : Stepped r)
    (h : Reader.run limit r tokens = some r') : Stepped r' := by
  induction tokens generalizing r with
  | nil =>
    obtain rfl := Option.some.inj h
    exact stepped
  | cons token tokens ih =>
    rw [Reader.run] at h
    cases next : r.step limit token with
    | none =>
      rw [next] at h
      contradiction
    | some after =>
      rw [next] at h
      exact ih (stepped.step next) h

/-- A row of tokens is read alike with more members below. -/
theorem run_below (stepped : Stepped r) (tokens : List Token) :
    Reader.run limit (r.below done) tokens = (Reader.run limit r tokens).map (below done) := by
  induction tokens generalizing r with
  | nil => rfl
  | cons token tokens ih =>
    have alike : (r.below done).step limit token = (r.step limit token).map (below done) := by
      obtain inside | ⟨v, finished⟩ := stepped.inside
      · exact step_below done inside token
      · obtain ⟨stack, phase⟩ := r
        obtain rfl : phase = .finished v := finished
        rfl
    rw [Reader.run, Reader.run, alike]
    cases next : r.step limit token with
    | none => rfl
    | some after => exact ih (stepped.step next)

/-! ### From one member to the next -/

/-- What a finished object is put into is open still, unless it is the document. -/
theorem eq_nil_of_deliver {members members' : Fields} {outer : List Frame}
    (h : deliver (.object members') outer = some r)
    (complete : r.result? = some (.object members)) : outer = [] ∧ members' = members := by
  match outer with
  | [] =>
    obtain rfl := Option.some.inj h
    have same := Option.some.inj complete
    exact ⟨rfl, Value.object.inj same⟩
  | .list _ :: _ | .member _ _ :: _ =>
    obtain rfl := Option.some.inj h
    contradiction
  | .object _ :: _ => contradiction

/-- Before the brace that completes an object with members, its members are all that is open. -/
theorem eq_of_closeObject {members : Fields} (stepped : Stepped r) (ne : members ≠ [])
    (h : r.step limit .closeObject = some r') (complete : r'.result? = some (.object members)) :
    r = ⟨[.object members.reverse], .separator⟩ := by
  obtain ⟨stack, phase⟩ := r
  cases phase with
  | value | firstItem =>
    have refused : beginValue limit stack .closeObject = none := by
      rw [beginValue]
      split <;> rfl
    have h : beginValue limit stack .closeObject = some r' := h
    rw [refused] at h
    contradiction
  | firstName =>
    obtain ⟨outer, fresh⟩ := stepped.fresh rfl
    obtain rfl : stack = .object [] :: outer := fresh
    obtain ⟨-, nothing⟩ := eq_nil_of_deliver h complete
    exact absurd nothing.symm ne
  | name => contradiction
  | colon => contradiction
  | separator =>
    match stack, h with
    | [], h | .list _ :: _, h | .member _ _ :: _, h => contradiction
    | .object finished :: outer, h =>
      obtain ⟨rfl, rfl⟩ := eq_nil_of_deliver h complete
      rw [List.reverse_reverse]
  | finished v => contradiction

/-- The last brace of an object with members comes after these. -/
theorem run_before_closeObject {members : Fields} {tokens : List Token} (stepped : Stepped r)
    (ne : members ≠ []) (h : run limit r (tokens ++ [.closeObject]) = some r')
    (complete : r'.result? = some (.object members)) :
    run limit r tokens = some ⟨[.object members.reverse], .separator⟩ := by
  rw [run_append] at h
  obtain ⟨before, read, last⟩ := Option.bind_eq_some_iff.mp h
  have closes : before.step limit .closeObject = some r' := by
    rw [run] at last
    cases next : before.step limit .closeObject with
    | none =>
      rw [next] at last
      contradiction
    | some after =>
      rw [next] at last
      exact last
  rw [read, eq_of_closeObject (stepped.run read) ne closes complete]

/-- The same in a document of which nothing has been read before. -/
theorem run_before_closeObject_of_start {members : Fields} {tokens : List Token}
    (ne : members ≠ []) (h : run limit ⟨[], .value⟩ (tokens ++ [.closeObject]) = some r')
    (complete : r'.result? = some (.object members)) :
    run limit ⟨[], .value⟩ tokens = some ⟨[.object members.reverse], .separator⟩ := by
  cases tokens with
  | nil => contradiction
  | cons token tokens =>
    rw [List.cons_append, run] at h
    cases first : step limit ⟨[], .value⟩ token with
    | none =>
      rw [first] at h
      contradiction
    | some after =>
      rw [first] at h
      have stepped : Stepped after := by
        refine stepped_step (fun due => ?_) first
        contradiction
      rw [run, first]
      exact run_before_closeObject stepped ne h complete

/-- A document that is an object with more members in front was an object without them. -/
theorem eq_of_belowValue {done members : Fields} {v : Value}
    (h : belowValue done v = .object members) :
    ∃ last, v = .object last ∧ members = done.reverse ++ last := by
  cases v with
  | object last => exact ⟨last, rfl, (Value.object.inj h).symm⟩
  | null | bool b | int n | float x | text s | bytes b | list items => simp [belowValue] at h

/-- The rest of an object, from between two members on, is read whatever members came before. -/
theorem run_rest {done members : Fields} {phase : Phase} {tokens : List Token}
    (due : phase = .separator ∨ phase = .name)
    (h : run limit ⟨[.object done], phase⟩ tokens = some r)
    (complete : r.result? = some (.object members)) :
    ∃ last, members = done.reverse ++ last ∧ ∀ others : Fields, ∃ r',
      run limit ⟨[.object others], phase⟩ tokens = some r' ∧
        r'.result? = some (.object (others.reverse ++ last)) := by
  have stepped : Stepped ⟨[.object []], phase⟩ :=
    ⟨.inl (List.cons_ne_nil _ _), fun _ => ⟨[], rfl⟩⟩
  have alike : ∀ others : Fields, run limit ⟨[.object others], phase⟩ tokens =
      (run limit ⟨[.object []], phase⟩ tokens).map (below others) := by
    intro others
    rw [← run_below others stepped]
    rcases due with rfl | rfl <;> rfl
  rw [alike] at h
  obtain ⟨⟨stack, phase'⟩, read, rfl⟩ := Option.map_eq_some_iff.mp h
  cases phase' with
  | finished v =>
    obtain ⟨last, rfl, rfl⟩ := eq_of_belowValue (Option.some.inj complete)
    refine ⟨last, rfl, fun others => ⟨below others ⟨stack, .finished (.object last)⟩, ?_, rfl⟩⟩
    rw [alike, read]
    rfl
  | value | firstItem | firstName | name | colon | separator => contradiction

/-- What is read of an object whose first name is due: nothing, or its end, or a name, which may as
well follow a comma. -/
theorem run_firstName {tokens : List Token}
    (h : run limit ⟨[.object []], .firstName⟩ tokens = some r) :
    r = ⟨[.object []], .firstName⟩ ∨ r = ⟨[], .finished (.object [])⟩ ∨
      run limit ⟨[.object []], .name⟩ tokens = some r := by
  cases tokens with
  | nil => exact .inl (Option.some.inj h).symm
  | cons token tokens =>
    cases token with
    | closeObject =>
      cases tokens with
      | nil => exact .inr (.inl (Option.some.inj h).symm)
      | cons token tokens => contradiction
    | text s => exact .inr (.inr h)
    | scalar v => contradiction
    | openObject | openList | closeList | colon | comma => contradiction

/-- Members that can be read as the only ones can be read behind others, after a comma. -/
theorem run_members {added : Fields} {tokens : List Token}
    (h : run limit ⟨[.object []], .firstName⟩ tokens = some ⟨[.object added.reverse], .separator⟩)
    (done : Fields) :
    run limit ⟨[.object done], .name⟩ tokens =
      some ⟨[.object (added.reverse ++ done)], .separator⟩ := by
  have stepped : Stepped ⟨[.object []], .name⟩ :=
    ⟨.inl (List.cons_ne_nil _ _), fun first => nomatch first⟩
  obtain same | same | read := run_firstName h
  · simp at same
  · simp at same
  · have above : (⟨[.object done], .name⟩ : Reader) = below done ⟨[.object []], .name⟩ := rfl
    rw [above, run_below done stepped, read]
    rfl

/-! ### Nesting -/

/-- Lists are refused where they stand in too many containers. -/
theorem run_openLists {n : Nat} {stack : List Frame} {phase : Phase}
    (due : phase = .value ∨ phase = .firstItem) (deep : limit < stack.length + n)
    (rest : List Token) :
    run limit ⟨stack, phase⟩ (List.replicate (n + 1) .openList ++ rest) = none := by
  induction n generalizing stack phase with
  | zero =>
    have refused : step limit ⟨stack, phase⟩ .openList = none := by
      rcases due with rfl | rfl <;> exact if_pos deep
    rw [List.replicate_succ, List.cons_append, run, refused]
  | succ n ih =>
    have opened : step limit ⟨stack, phase⟩ .openList =
        if limit < stack.length then none else some ⟨.list [] :: stack, .firstItem⟩ := by
      rcases due with rfl | rfl <;> rfl
    rw [List.replicate_succ, List.cons_append, run, opened]
    by_cases full : limit < stack.length
    · rw [if_pos full]
    · rw [if_neg full]
      refine ih (.inr rfl) ?_
      rw [List.length_cons]
      omega

end ResumableUpload.Json.Reader
