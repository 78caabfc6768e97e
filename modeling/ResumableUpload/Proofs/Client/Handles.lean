import ResumableUpload.Client.Basic
import ResumableUpload.Proofs.Channel.Requests
import ResumableUpload.Proofs.Session.Opening

/-!
# One handle for each options object

However many channels and snapshots a client has, and whatever fails: the handle of an options
object is asked for until it is granted once, everything else that is asked with these options goes
to it, and whether it exists is never seen in a comparison. It is asked for only where something is
about to be sent, or asked directly; when it is refused, the refusal is the answer.

## Main definitions

* `Turn.Orderly` — what holds of the calls of a turn.

## Main results

* `Client.orderly_step` — every turn is orderly.
* `Client.asked_run` — what is asked in a row of turns.
* `Client.one_handle` — one handle for each options object.
-/

namespace ResumableUpload

variable [Memory]

/-- The calls of a turn are made with one options object, if there may be any; and a refused handle
is the answer. -/
structure Turn.Orderly (t : Turn) (o : ServiceOptions) (history : List (Call × Outcome)) :
    Prop where
  /-- The calls of the turn. -/
  asks : t.before.service.Asks o history (fun f => t.answer = .error (.failure f)) t.after.service
  /-- When there are calls, and whose they are. -/
  asked : history ≠ [] → t.MayCall ∧ t.options? = some o
  /-- What a refused handle leaves behind. -/
  stopped : ∀ f, ((⟨o, .handle⟩, .fail f) : Call × Outcome) ∈ history → t.StoppedBy f

namespace Client

variable {c c' : Client} {command : Command} {answer : Except Problem Response}

/-! ### One command -/

/-- A turn that leaves the service alone is orderly. -/
theorem orderly_of_service_eq {told : Except Problem Response × Client} (h : told = (answer, c'))
    (same : told.2.service = c.service) :
    ∃ o history, Turn.Orderly ⟨command, c, answer, c'⟩ o history := by
  subst h
  refine ⟨default, [], ?_, by simp, by simp⟩
  change c.service.Asks _ _ _ c'.service
  rw [same]
  exact .refl _ _ _

/-- A turn is orderly when what is done with what was kept is. -/
theorem orderly_of_withKept {α : Type} {kept : Option α}
    {use : α → Except Problem Response × Client} (h : c.withKept kept use = (answer, c'))
    (each : ∀ a, kept = some a → use a = (answer, c') →
      ∃ o history, Turn.Orderly ⟨command, c, answer, c'⟩ o history) :
    ∃ o history, Turn.Orderly ⟨command, c, answer, c'⟩ o history := by
  obtain ⟨-, rfl, rfl⟩ | ⟨a, found, used⟩ := withKept_cases h
  · exact orderly_of_service_eq rfl rfl
  · exact each a found used

/-- What is asked when a channel is created. -/
theorem asks_keepChannel {origin : Origin}
    (h : c.keepChannel (origin.create c.service) = (answer, c')) :
    ∃ history, c.service.Asks origin.options history (fun f => answer = .error (.failure f))
      c'.service ∧ (history ≠ [] → origin.Connects c.service) := by
  obtain ⟨history, asks, connects, -⟩ :=
    Origin.asks_create (Prod.eta (origin.create c.service)).symm
  have service : c'.service = (origin.create c.service).2 := by
    rw [← service_keepChannel c, h]
  have told : answer = (origin.create c.service).1.map .channel := by
    rw [← answer_keepChannel c, h]
  refine ⟨history, ?_, connects⟩
  rw [service, told]
  exact asks.mono fun f failed => Channel.map_eq_error failed

/-- An operation is orderly. -/
theorem orderly_operate {n : Nat} {op : Operation}
    (h : c.step (.operate n op) = (answer, c')) :
    ∃ o history, Turn.Orderly ⟨.operate n op, c, answer, c'⟩ o history := by
  refine orderly_of_withKept h fun ch kept h => ?_
  rcases performed : ch.perform op c.service with ⟨result, ch', s'⟩
  obtain ⟨history, requests⟩ := Channel.requests_perform performed
  simp only [performed, Prod.mk.injEq] at h
  obtain ⟨rfl, rfl⟩ := h
  refine ⟨ch.options, history, ?_, fun asked => ⟨?_, ?_⟩, fun f mem => ?_⟩
  · exact requests.asks.mono fun f failed => by rw [failed]; rfl
  · exact ⟨ch, kept, requests.due_of_asked asked⟩
  · simp [Turn.options?, kept]
  · obtain ⟨final, u, flushed, makes⟩ := requests.stopped f mem
    have inside : n < c.channels.length := (List.getElem?_eq_some_iff.mp kept).1
    refine ⟨ch, ch', final, u, kept, List.getElem?_set_self inside, flushed, makes.historySince,
      fun noWrite => ?_⟩
    have failed := requests.asks.refused f mem
    rw [failed] at performed
    exact Channel.eq_of_perform_error noWrite performed

/-- Every turn is orderly. -/
theorem orderly_step (h : c.step command = (answer, c')) :
    ∃ o history, Turn.Orderly ⟨command, c, answer, c'⟩ o history := by
  cases command with
  | create origin =>
    obtain ⟨history, asks, connects⟩ := asks_keepChannel h
    exact ⟨origin.options, history, asks, fun asked => ⟨connects asked, rfl⟩, fun _ _ => trivial⟩
  | operate n op => exact orderly_operate h
  | restore n =>
    refine orderly_of_withKept h fun snapshot _ h => ?_
    obtain ⟨history, asks, connects⟩ := asks_keepChannel h
    exact ⟨_, history, asks, fun asked => absurd (connects asked) not_false, fun _ _ => trivial⟩
  | requestHandle options =>
    obtain ⟨history, asks, -⟩ := Service.asks_requestHandle options c.service
    simp only [step, Prod.mk.injEq] at h
    obtain ⟨rfl, rfl⟩ := h
    refine ⟨options, history, asks.mono fun f failed => ?_, fun _ => ⟨trivial, rfl⟩,
      fun _ _ => trivial⟩
    change Except.mapError _ (Except.map _ _) = _
    rw [failed]
    rfl
  -- The service is not concerned by any of the others.
  | capture n =>
    exact orderly_of_withKept h fun ch _ h => orderly_of_service_eq h (service_keepSnapshot c _)
  | describe options blob fields => exact orderly_of_service_eq h (service_keepSnapshot c _)
  | write n => exact orderly_of_withKept h fun snapshot _ h => orderly_of_service_eq h rfl
  | read n options =>
    exact orderly_of_withKept h fun document _ h =>
      orderly_of_service_eq h (service_keepSnapshot c _)
  | load document options => exact orderly_of_service_eq h (service_keepSnapshot c _)
  | display n => exact orderly_of_withKept h fun snapshot _ h => orderly_of_service_eq h rfl
  | compare n m =>
    exact orderly_of_withKept h fun first _ h =>
      orderly_of_withKept h fun second _ h => orderly_of_service_eq h rfl
  | compareOptions first second => exact orderly_of_service_eq h rfl

/-- A comparison does not depend on which handles exist. -/
theorem step_compares (h : c.step command = (answer, c'))
    (compares : Turn.Compares ⟨command, c, answer, c'⟩) (handles : List Nat) :
    (Client.step { c with service := { c.service with handles := handles } } command).1 =
      answer := by
  have told : answer = (c.step command).1 := by rw [h]
  rw [told]
  cases command with
  | compare n m =>
    simp only [step, withKept]
    cases c.snapshots[n]? with
    | none => rfl
    | some first =>
      cases c.snapshots[m]? with
      | none => rfl
      | some second => rfl
  | compareOptions first second => rfl
  | _ => exact absurd compares not_false

/-! ### A row of commands -/

/-- A turn of a run is a step of the client before it. -/
theorem step_of_mem_run {commands : List Command} {t : Turn} (mem : t ∈ (c.run commands).1) :
    t.before.step t.command = (t.answer, t.after) := by
  induction commands generalizing c with
  | nil => contradiction
  | cons command commands ih =>
    rcases List.mem_cons.mp mem with rfl | mem
    · rfl
    · exact ih mem

/-- What is asked in a row of turns is asked in one turn after the other, and every handle fares as
it should. -/
theorem asked_run (c : Client) (commands : List Command) :
    ∃ history, c.service.Makes history (c.run commands).2.service ∧
      ∀ i, HandleCourse i (c.service.handles.contains i) history
        ((c.run commands).2.service.handles.contains i) := by
  induction commands generalizing c with
  | nil => exact ⟨[], .refl c.service, fun _ => .nil⟩
  | cons command commands ih =>
    obtain ⟨o, first, orderly⟩ := orderly_step (Prod.eta (c.step command)).symm
    obtain ⟨later, makes, course⟩ := ih (c.step command).2
    exact ⟨first ++ later, orderly.asks.makes.trans makes,
      fun i => (orderly.asks.course i).trans (course i)⟩

/-- In any row of commands the handle of an options object is refused until it is granted, at most
once, and from then on everything that is asked with these options goes to it. Calls are made only
by asking for a handle, by opening a channel whose chunk size and address are good, and by an
operation that has something to send; they are made with the options of the channel. A refused
handle is the answer, and leaves the channel as the flush found it. No comparison sees which handles
exist. -/
theorem one_handle (c : Client) (commands : List Command) :
    (∀ i history, history = madeBy i (c.service.historySince (c.run commands).2.service) →
      (i ∈ c.service.handles → ∀ x ∈ history, x.1.request ≠ .handle) ∧
      (i ∉ c.service.handles → OneHandle history ∧
        (i ∈ (c.run commands).2.service.handles ↔ ∃ x ∈ history, Granted x))) ∧
    ∀ t ∈ (c.run commands).1,
      (¬t.MayCall → t.after.service.calls = t.before.service.calls) ∧
      (∀ x ∈ t.history, t.options? = some x.1.options) ∧
      (∀ o f, ((⟨o, .handle⟩, .fail f) : Call × Outcome) ∈ t.history →
        t.answer = .error (.failure f) ∧ t.StoppedBy f) ∧
      (t.Compares → ∀ handles : List Nat,
        (Client.step { t.before with service := { t.before.service with handles := handles } }
          t.command).1 = t.answer) := by
  constructor
  · rintro i _ rfl
    obtain ⟨history, makes, course⟩ := asked_run c commands
    obtain ⟨known, unknown⟩ := (course i).spec
    rw [makes.historySince]
    simp only [List.contains_iff_mem, Bool.eq_false_iff, ne_eq] at known unknown
    exact ⟨fun mem => (known mem).2, unknown⟩
  · intro t mem
    have stepped := step_of_mem_run mem
    obtain ⟨o, history, orderly⟩ := orderly_step stepped
    have made : t.history = history := orderly.asks.makes.historySince
    refine ⟨fun quiet => ?_, fun x asked => ?_, fun o' f refused => ?_, step_compares stepped⟩
    · have nothing : history = [] :=
        Classical.not_not.mp fun asked => quiet (orderly.asked asked).1
      have calls := orderly.asks.makes.calls
      rwa [nothing, List.map_nil, List.append_nil] at calls
    · rw [made] at asked
      rw [orderly.asks.own x asked]
      exact (orderly.asked (List.ne_nil_of_mem asked)).2
    · rw [made] at refused
      obtain rfl : o' = o := orderly.asks.own _ refused
      exact ⟨orderly.asks.refused f refused, orderly.stopped f refused⟩

end Client

end ResumableUpload
