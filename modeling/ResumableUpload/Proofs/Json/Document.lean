import ResumableUpload.Json.Document

/-!
# Reading the tokens of a value

Every value has a row of tokens: punctuation around and between its parts, and a token for each
scalar in it. Reading that row gives the value, wherever it stands, as long as it is not nested too
deeply.

## Main definitions

* `Value.tokens` — the tokens of a value.
* `Value.depth` — the most containers of a value that one of its parts stands in.
* `Reader.ReadsBack` — the tokens of a value are read as the value.

## Main results

* `Reader.run_tokens` — so are the tokens of every value.
-/

namespace ResumableUpload

namespace Value

mutual

/-- The tokens of a value. -/
def tokens : Value → List Json.Token
  | list [] => [.openList, .closeList]
  | list (item :: items) => .openList :: (tokens item ++ itemTokens items)
  | object [] => [.openObject, .closeObject]
  | object ((name, item) :: members) =>
    .openObject :: .text name :: .colon :: (tokens item ++ memberTokens members)
  | text s => [.text s]
  | v => [.scalar v]

/-- The tokens of further items of a list, up to its end. -/
def itemTokens : List Value → List Json.Token
  | [] => [.closeList]
  | item :: items => .comma :: (tokens item ++ itemTokens items)

/-- The tokens of further members of an object, up to its end. -/
def memberTokens : List (String × Value) → List Json.Token
  | [] => [.closeObject]
  | (name, item) :: members =>
    .comma :: .text name :: .colon :: (tokens item ++ memberTokens members)

end

mutual

/-- The most containers of a value that one of its parts stands in. -/
def depth : Value → Nat
  | list items => itemsDepth items
  | object members => membersDepth members
  | _ => 0

/-- The most containers that a part of an item stands in, the list counted. -/
def itemsDepth : List Value → Nat
  | [] => 0
  | item :: items => max (depth item + 1) (itemsDepth items)

/-- The most containers that a part of a member stands in, the object counted. -/
def membersDepth : List (String × Value) → Nat
  | [] => 0
  | (_, item) :: members => max (depth item + 1) (membersDepth members)

end

end Value

namespace Json.Reader

variable {limit : Nat}

/-- The first token of a value that is not nested too deeply. -/
theorem run_value {stack : List Frame} (fits : stack.length ≤ limit) (token : Token)
    (rest : List Token) :
    run limit ⟨stack, .value⟩ (token :: rest) =
      (openValue stack token).bind fun r => run limit r rest := by
  have opened : step limit ⟨stack, .value⟩ token = openValue stack token :=
    if_neg (Nat.not_lt.mpr fits)
  rw [run, opened]
  cases openValue stack token <;> rfl

/-- A value may stand first in a list. -/
theorem run_firstItem (v : Value) (stack : List Frame) (rest : List Token) :
    run limit ⟨stack, .firstItem⟩ (v.tokens ++ rest) =
      run limit ⟨stack, .value⟩ (v.tokens ++ rest) := by
  match v with
  | .list [] | .list (_ :: _) | .object [] | .object (_ :: _) => rfl
  | .text _ | .null | .bool _ | .int _ | .float _ | .bytes _ => rfl

/-- What ends a list or an object gives a finished value. -/
theorem run_continue {stack : List Frame} {token : Token} {v : Value} {outer : List Frame}
    (closes : continueContainer stack token = deliver v outer) (rest : List Token) :
    run limit ⟨stack, .separator⟩ (token :: rest) =
      (deliver v outer).bind fun r => run limit r rest := by
  have closed : step limit ⟨stack, .separator⟩ token = deliver v outer := closes
  rw [run, closed]
  cases deliver v outer <;> rfl

/-- The tokens of a value are read as the value, in any place where it is not nested too deeply. -/
def ReadsBack (limit : Nat) (v : Value) : Prop :=
  ∀ stack rest, stack.length + v.depth ≤ limit →
    run limit ⟨stack, .value⟩ (v.tokens ++ rest) = (deliver v stack).bind fun r => run limit r rest

/-- The tokens of further items are read as the items. -/
theorem run_itemTokens {items : List Value} (each : ∀ item ∈ items, ReadsBack limit item)
    (done : List Value) (stack : List Frame) (rest : List Token)
    (fits : stack.length + Value.itemsDepth items ≤ limit) :
    run limit ⟨.list done :: stack, .separator⟩ (Value.itemTokens items ++ rest) =
      (deliver (.list (done.reverse ++ items)) stack).bind fun r => run limit r rest := by
  induction items generalizing done with
  | nil =>
    rw [Value.itemTokens, List.append_nil]
    exact run_continue rfl rest
  | cons item items ih =>
    obtain ⟨readsBack, each⟩ := List.forall_mem_cons.mp each
    rw [Value.itemsDepth] at fits
    have inner : (Frame.list done :: stack).length + item.depth ≤ limit := by
      rw [List.length_cons]
      omega
    have comma : step limit ⟨.list done :: stack, .separator⟩ .comma =
        some ⟨.list done :: stack, .value⟩ := rfl
    rw [Value.itemTokens, List.cons_append, List.append_assoc, run, comma]
    dsimp only
    rw [readsBack _ _ inner, deliver, Option.bind_some, ih each (item :: done) (by omega),
      List.reverse_cons, List.append_assoc, List.singleton_append]

/-- The tokens of further members are read as the members. -/
theorem run_memberTokens {members : Fields} (each : ∀ member ∈ members, ReadsBack limit member.2)
    (done : Fields) (stack : List Frame) (rest : List Token)
    (fits : stack.length + Value.membersDepth members ≤ limit) :
    run limit ⟨.object done :: stack, .separator⟩ (Value.memberTokens members ++ rest) =
      (deliver (.object (done.reverse ++ members)) stack).bind fun r => run limit r rest := by
  induction members generalizing done with
  | nil =>
    rw [Value.memberTokens, List.append_nil]
    exact run_continue rfl rest
  | cons member members ih =>
    obtain ⟨name, item⟩ := member
    obtain ⟨readsBack, each⟩ := List.forall_mem_cons.mp each
    rw [Value.membersDepth] at fits
    have inner : (Frame.member done name :: stack).length + item.depth ≤ limit := by
      rw [List.length_cons]
      omega
    have comma : step limit ⟨.object done :: stack, .separator⟩ .comma =
        some ⟨.object done :: stack, .name⟩ := rfl
    rw [Value.memberTokens, List.cons_append, run, comma]
    simp only [List.cons_append, run, step, beginMember]
    rw [List.append_assoc, readsBack _ _ inner, deliver, Option.bind_some,
      ih each ((name, item) :: done) (by omega), List.reverse_cons, List.append_assoc,
      List.singleton_append]

/-- The tokens of every value are read as the value. -/
theorem run_tokens (v : Value) : ReadsBack limit v := by
  intro stack rest fits
  have shallow : stack.length ≤ limit := by omega
  match v with
  | .list [] =>
    rw [Value.tokens, List.cons_append, run_value shallow]
    exact run_continue rfl rest
  | .list (item :: items) =>
    rw [Value.depth, Value.itemsDepth] at fits
    have inner : (Frame.list [] :: stack).length + item.depth ≤ limit := by
      rw [List.length_cons]
      omega
    rw [Value.tokens, List.cons_append, List.append_assoc, run_value shallow, openValue,
      Option.bind_some, run_firstItem, run_tokens item _ _ inner, deliver, Option.bind_some]
    exact run_itemTokens (fun item _ => run_tokens item) [item] stack rest (by omega)
  | .object [] =>
    rw [Value.tokens, List.cons_append, run_value shallow]
    exact run_continue rfl rest
  | .object ((name, item) :: members) =>
    rw [Value.depth, Value.membersDepth] at fits
    have inner : (Frame.member [] name :: stack).length + item.depth ≤ limit := by
      rw [List.length_cons]
      omega
    rw [Value.tokens, List.cons_append, run_value shallow, openValue, Option.bind_some]
    simp only [List.cons_append, run, step, beginMember]
    rw [List.append_assoc, run_tokens item _ _ inner, deliver, Option.bind_some]
    have each : ∀ member ∈ members, ReadsBack limit member.2 := by
      intro member mem
      have smaller : sizeOf member.2 < sizeOf members := by
        refine Nat.lt_trans ?_ (List.sizeOf_lt_of_mem mem)
        rw [Prod.mk.sizeOf_spec member.1 member.2]
        omega
      exact run_tokens member.2
    exact run_memberTokens each [(name, item)] stack rest (by omega)
  | .text _ | .null | .bool _ | .int _ | .float _ | .bytes _ => exact run_value shallow _ rest
termination_by sizeOf v

end Json.Reader

end ResumableUpload
