import ResumableUpload.Proofs.Service.Sending

/-!
# The history between two states of a service

`Service.Makes` says of two states of a service which calls were made between them, and with which
outcomes. It composes along a run, and it determines `Service.historySince`. Outcomes do not depend
on how many sessions were opened, which is all that opening one changes beside its script.

## Main definitions

* `Service.SameScripts` — the same outcomes are still to come.
* `Service.Makes` — exactly these calls are made between two states.

## Main results

* `Service.Makes.trans` — what is asked in two parts of a run is asked one after the other.
* `Service.Makes.historySince` — the calls made are those of the history.
-/

namespace ResumableUpload

/-- Endpoints that differ in the number of sessions only answer alike. -/
theorem Endpoint.answer_congr {e e' : Endpoint}
    (same : { e with sessions := 0 } = { e' with sessions := 0 }) (request : Request) :
    (e.answer request).1 = (e'.answer request).1 ∧
      { (e.answer request).2 with sessions := 0 } =
        { (e'.answer request).2 with sessions := 0 } := by
  cases e
  cases e'
  simp only [Endpoint.mk.injEq, and_true] at same
  obtain ⟨rfl, rfl, rfl, rfl⟩ := same
  cases request <;> exact ⟨rfl, rfl⟩

namespace Service

variable {s s' t t' : Service}

/-! ### The outcomes still to come -/

/-- The same outcomes are still to come at every endpoint. -/
def SameScripts (s t : Service) : Prop :=
  ∀ name, { s.endpoints name with sessions := 0 } = { t.endpoints name with sessions := 0 }

/-- The outcomes to come are those to come. -/
theorem SameScripts.refl (s : Service) : s.SameScripts s := fun _ => rfl

/-- What is to come twice is to come. -/
theorem SameScripts.trans {u : Service} (h₁ : s.SameScripts t) (h₂ : t.SameScripts u) :
    s.SameScripts u :=
  fun name => (h₁ name).trans (h₂ name)

/-- A request meets the same outcome, and the same ones are to come afterwards. -/
theorem SameScripts.ask (same : s.SameScripts t) (o : ServiceOptions) (request : Request) :
    (Service.ask o request s).1 = (Service.ask o request t).1 ∧
      (Service.ask o request s).2.SameScripts (Service.ask o request t).2 := by
  obtain ⟨outcome, rest⟩ := Endpoint.answer_congr (same o.endpoint) request
  refine ⟨outcome, fun name => ?_⟩
  by_cases here : name = o.endpoint
  · simpa only [Service.ask, setEndpoint, here, if_true] using rest
  · simpa only [Service.ask, setEndpoint, here, if_false] using same name

/-- A row of calls meets the same outcomes, and the same ones are to come afterwards. -/
theorem SameScripts.exchanges (same : s.SameScripts t) (calls : List Call) :
    s.exchanges calls = t.exchanges calls ∧
      (s.afterCalls calls).SameScripts (t.afterCalls calls) := by
  induction calls generalizing s t with
  | nil => exact ⟨rfl, same⟩
  | cons call calls ih =>
    obtain ⟨outcome, rest⟩ := same.ask call.options call.request
    obtain ⟨later, after⟩ := ih rest
    refine ⟨?_, after⟩
    simp only [Service.exchanges]
    rw [outcome, later]

/-! ### Calls and their outcomes -/

/-- Between the two states exactly these calls are made, in this order and with these outcomes. -/
def Makes (s : Service) (history : List (Call × Outcome)) (s' : Service) : Prop :=
  ∃ calls : List Call, s'.calls = s.calls ++ calls ∧ s'.SameScripts (s.afterCalls calls) ∧
    s.exchanges calls = history

/-- Between a state and itself no call is made. -/
theorem Makes.refl (s : Service) : s.Makes [] s :=
  ⟨[], (List.append_nil _).symm, .refl s, rfl⟩

/-- What is asked in two parts of a run is asked one after the other. -/
theorem Makes.trans {s₁ s₂ s₃ : Service} {first second : List (Call × Outcome)}
    (h₁ : s₁.Makes first s₂) (h₂ : s₂.Makes second s₃) : s₁.Makes (first ++ second) s₃ := by
  obtain ⟨calls₁, record₁, scripts₁, rfl⟩ := h₁
  obtain ⟨calls₂, record₂, scripts₂, rfl⟩ := h₂
  obtain ⟨outcomes, after⟩ := scripts₁.exchanges calls₂
  refine ⟨calls₁ ++ calls₂, ?_, ?_, ?_⟩
  · rw [record₂, record₁, List.append_assoc]
  · rw [afterCalls_append]
    exact scripts₂.trans after
  · rw [exchanges_append, outcomes]

/-- Neither events nor handles nor the number of sessions are calls. -/
theorem Makes.of_record {history : List (Call × Outcome)} (h : s.Makes history s')
    (calls : t.calls = s'.calls) (scripts : t.SameScripts s') : s.Makes history t := by
  obtain ⟨made, record, rest, outcomes⟩ := h
  exact ⟨made, calls.trans record, scripts.trans rest, outcomes⟩

/-- The calls made between two states are those of the history between them. -/
theorem Makes.historySince {history : List (Call × Outcome)} (h : s.Makes history s') :
    s.historySince s' = history := by
  obtain ⟨calls, record, -, rfl⟩ := h
  rw [Service.historySince, record, List.drop_left]

/-- An exchange belongs to the call that was made. -/
theorem map_fst_exchanges (s : Service) (calls : List Call) :
    (s.exchanges calls).map Prod.fst = calls := by
  induction calls generalizing s with
  | nil => rfl
  | cons call calls ih => simp only [exchanges, List.map_cons, ih]

/-- Where no calls are made, none are recorded. -/
theorem Makes.calls_eq (h : s.Makes [] s') : s'.calls = s.calls := by
  obtain ⟨calls, record, -, none⟩ := h
  have made := map_fst_exchanges s calls
  rw [none] at made
  rw [record, ← made, List.map_nil, List.append_nil]

/-- The calls made are recorded. -/
theorem Makes.calls {history : List (Call × Outcome)} (h : s.Makes history s') :
    s'.calls = s.calls ++ history.map Prod.fst := by
  obtain ⟨calls, record, -, rfl⟩ := h
  rw [record, map_fst_exchanges]

/-- A request is one call. -/
theorem makes_ask (o : ServiceOptions) (request : Request) (s : Service) :
    s.Makes [(⟨o, request⟩, (ask o request s).1)] (ask o request s).2 :=
  ⟨[⟨o, request⟩], rfl, .refl _, rfl⟩

/-- Counting a session changes no outcome. -/
theorem sameScripts_countSession (o : ServiceOptions) (reply : Option String) (s : Service) :
    (countSession o reply s).2.SameScripts s := by
  intro name
  by_cases here : name = o.endpoint
  · simp only [countSession, setEndpoint, here, if_true]
  · simp only [countSession, setEndpoint, here, if_false]

end Service

end ResumableUpload
