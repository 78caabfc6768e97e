import ResumableUpload.Channel.Open
import ResumableUpload.Proofs.Retry.Tape
import ResumableUpload.Proofs.Service.Handles

/-!
# Handles and sessions from scripts

What a channel that is opened asks for follows from the outcomes that are to come: whether it gets a
handle from the next one of handles, and how often it asks for a session from the next ones of
sessions. So what is asked for, and what it comes to, are functions of the scripts.

## Main definitions

* `Service.granting` — the outcomes of making sure that there is a handle.
* `Service.identified` — what an outcome is to someone who waits for a session.
* `Endpoint.script`, `Retry.met` — the outcomes of one kind, and those that attempts meet.

## Main results

* `Service.requestHandle_spec`, `Service.askSession_spec` — a handle, and one request for a session.
* `Retry.attempt_askSession` — the attempts to get a session.
* `Channel.connect_of_ready`, `Channel.connect_of_not_ready` — a handle, and then a session.
-/

namespace ResumableUpload

namespace Service

variable {o : ServiceOptions} {s s₁ : Service}

/-! ### A handle -/

/-- The outcomes of making sure that there is a handle: none if it exists, else the next one. -/
def granting (o : ServiceOptions) (s : Service) : List Outcome :=
  if s.handles.contains o.identity then []
  else [(Endpoint.next (s.endpoints o.endpoint).handleScript).1]

/-- A handle is asked for once at most. -/
theorem length_granting_le (o : ServiceOptions) (s : Service) : (s.granting o).length ≤ 1 := by
  rw [granting]
  split
  · exact Nat.zero_le 1
  · exact Nat.le_refl 1

/-- What is done to have a handle: these outcomes are met, the last one decides, and other outcomes
and the number of sessions are not touched. -/
theorem requestHandle_spec (o : ServiceOptions) (s : Service) :
    s.Makes ((s.granting o).map (Prod.mk ⟨o, .handle⟩)) (requestHandle o s).2 ∧
      (requestHandle o s).1 = ((s.granting o).getLast?.map Outcome.toExcept).getD (.ok ()) ∧
      ∃ script, (requestHandle o s).2.endpoints o.endpoint =
        { s.endpoints o.endpoint with handleScript := script } := by
  by_cases known : s.HasHandle o
  · have nothing : s.granting o = [] := if_pos known
    rw [requestHandle_of_hasHandle known, nothing]
    exact ⟨.refl s, rfl, _, rfl⟩
  · have asked : s.granting o = [(ask o .handle (s.note (.creatingHandle o.projectId))).1] :=
      if_neg known
    have noted : s.Makes [] (s.note (.creatingHandle o.projectId)) :=
      (Makes.refl s).of_record rfl (.refl s)
    have makes := noted.trans (makes_ask o .handle (s.note (.creatingHandle o.projectId)))
    have rest : ∃ script, (ask o .handle (s.note (.creatingHandle o.projectId))).2.endpoints
        o.endpoint = { s.endpoints o.endpoint with handleScript := script } :=
      ⟨_, if_pos rfl⟩
    rw [requestHandle, if_neg (by exact known), asked]
    cases answered : ask o .handle (s.note (.creatingHandle o.projectId)) with
    | mk outcome s₁ =>
      rw [answered] at makes rest
      cases outcome with
      | fail f => exact ⟨makes, rfl, rest⟩
      | accept reply => exact ⟨makes.of_record rfl (.refl s₁), rfl, rest⟩

/-- A handle can be had just when making sure that there is one succeeds. -/
theorem ready_iff_requestHandle (o : ServiceOptions) (s : Service) :
    s.Ready o ↔ (requestHandle o s).1 = .ok () := by
  rw [(requestHandle_spec o s).2.1]
  by_cases known : s.HasHandle o
  · have nothing : s.granting o = [] := if_pos known
    rw [nothing]
    exact iff_of_true (.inl known) rfl
  · have asked : s.granting o = [(Endpoint.next (s.endpoints o.endpoint).handleScript).1] :=
      if_neg known
    rw [asked, Ready, or_iff_right known]
    cases (Endpoint.next (s.endpoints o.endpoint).handleScript).1 with
    | accept reply => exact iff_of_true rfl rfl
    | fail f => exact iff_of_false Bool.false_ne_true (by simp [Outcome.toExcept])

/-! ### A session -/

/-- What an outcome is to someone who waits for a session: its identifier, or a failure. -/
def identified (o : ServiceOptions) (s : Service) : Outcome → Except Failure String
  | .accept reply => .ok (countSession o reply s).1
  | .fail f => .error f

/-- A service that has counted as many sessions identifies the next one in the same way. -/
theorem identified_congr
    (sessions : (s₁.endpoints o.endpoint).sessions = (s.endpoints o.endpoint).sessions) :
    s₁.identified o = s.identified o := by
  funext outcome
  cases outcome with
  | accept reply => simp only [identified, countSession, sessions]
  | fail f => rfl

/-- The endpoint that was asked has answered. -/
theorem endpoints_ask (o : ServiceOptions) (request : Request) (s : Service) :
    (ask o request s).2.endpoints o.endpoint = ((s.endpoints o.endpoint).answer request).2 :=
  if_pos rfl

/-- No request counts sessions. -/
theorem sessions_ask (o : ServiceOptions) (request : Request) (s : Service) :
    ((ask o request s).2.endpoints o.endpoint).sessions = (s.endpoints o.endpoint).sessions := by
  rw [endpoints_ask]
  cases request <;> rfl

/-- An identifier is empty just when the reply that came with the acceptance is; one that is made up
is not. -/
theorem eq_empty_iff_of_identified {outcome : Outcome} {uploadId : String}
    {comesOut : Failure → Failure} (h : (s.identified o outcome).mapError comesOut = .ok uploadId) :
    ∃ reply, outcome = .accept reply ∧ (uploadId = "" ↔ reply = some "") := by
  cases outcome with
  | fail f => contradiction
  | accept reply =>
    obtain rfl := Except.ok.inj h
    refine ⟨reply, rfl, ?_⟩
    cases reply with
    | some reply => simp [countSession]
    | none =>
      have chars : (countSession o none s).1.toList ≠ [] := by simp [countSession]
      exact ⟨fun empty => absurd (by rw [empty]; rfl) chars, fun empty => by contradiction⟩

/-- A request for a session meets the next outcome and leaves handles alone. Only if the outcome is
an acceptance there is more to do than to ask. -/
theorem askSession_spec (o : ServiceOptions) (request : Request) (s : Service) :
    s.Makes [(⟨o, request⟩, (ask o request s).1)] (askSession o request s).2 ∧
      (askSession o request s).2.handles = s.handles ∧
      (askSession o request s).1 = s.identified o (ask o request s).1 ∧
      ∀ f, (ask o request s).1 = .fail f → (askSession o request s).2 = (ask o request s).2 := by
  have makes := makes_ask o request s
  have handles : (ask o request s).2.handles = s.handles := rfl
  have sessions := sessions_ask o request s
  rw [askSession]
  cases asked : ask o request s with
  | mk outcome s₁ =>
    rw [asked] at makes handles sessions
    cases outcome with
    | fail f => exact ⟨makes, handles, rfl, fun _ _ => rfl⟩
    | accept reply =>
      refine ⟨makes.of_record rfl (sameScripts_countSession o reply s₁), handles, ?_, by simp⟩
      rw [← identified_congr sessions]
      rfl

end Service

/-! ### Attempts to get a session -/

/-- The outcomes to come of requests of the same kind. -/
def Endpoint.script (e : Endpoint) : Request → List Outcome
  | .handle => e.handleScript
  | .session _ _ => e.sessionScript
  | .signedSession _ => e.signedScript
  | .upload _ => e.uploadScript

/-- A request uses up one outcome of its kind. -/
theorem Endpoint.script_answer (e : Endpoint) (request : Request) :
    (e.answer request).1 = (next (e.script request)).1 ∧
      (e.answer request).2.script request = (next (e.script request)).2 := by
  cases request <;> exact ⟨rfl, rfl⟩

namespace Retry

/-- The outcome is worth another attempt. -/
def isRepeated : Outcome → Bool
  | .accept _ => false
  | .fail f => f.fault.isOrdinary && f.isRetryable

/-- The outcomes that attempts meet, given those to come: all up to the first one that is not worth
another attempt, or behind which none is left. -/
def met : Nat → List Outcome → List Outcome
  | 0, script => [(Endpoint.next script).1]
  | left + 1, script =>
    if isRepeated (Endpoint.next script).1 then
      (Endpoint.next script).1 :: met left (Endpoint.next script).2
    else [(Endpoint.next script).1]

/-- One outcome is met at least, and no more than there are attempts. -/
theorem length_met (left : Nat) (script : List Outcome) :
    1 ≤ (met left script).length ∧ (met left script).length ≤ left + 1 := by
  induction left generalizing script with
  | zero => exact ⟨Nat.le_refl 1, Nat.le_refl 1⟩
  | succ left ih =>
    rw [met]
    split
    · have few := (ih (Endpoint.next script).2).2
      rw [List.length_cons]
      omega
    · rw [List.length_singleton]
      omega

/-- An outcome that decides is the only one. -/
theorem met_of_final {left : Nat} {script : List Outcome}
    (final : left = 0 ∨ isRepeated (Endpoint.next script).1 = false) :
    met left script = [(Endpoint.next script).1] := by
  cases left with
  | zero => rfl
  | succ left =>
    have fatal := final.resolve_left (Nat.succ_ne_zero left)
    rw [met, fatal, if_neg Bool.false_ne_true]

/-- Whoever waits for a session sees whether the outcome is worth another attempt. -/
theorem repeats_identified (o : ServiceOptions) (s : Service) (outcome : Outcome) :
    Repeats (s.identified o outcome) ↔ isRepeated outcome = true := by
  cases outcome with
  | accept reply => exact iff_of_false id Bool.false_ne_true
  | fail f => exact (Bool.and_eq_true _ _ ▸ Iff.rfl)

variable {o : ServiceOptions} {request : Request} {s : Service}

/-- The next outcome comes out if it decides. -/
theorem attempt_askSession_of_final {left : Nat} (description : String)
    (final : left = 0 ∨ isRepeated (Service.ask o request s).1 = false) :
    attempt Service.note description (Service.askSession o request) left s =
      ((s.identified o (Service.ask o request s).1).mapError (surface description),
        (Service.askSession o request s).2) := by
  obtain ⟨-, -, answer, -⟩ := Service.askSession_spec o request s
  refine attempt_of_final (Prod.ext answer rfl) ?_
  rw [repeats_identified, Bool.not_eq_true]
  exact final

/-- A failure that is worth another attempt uses up one outcome, and nothing else changes for the
attempts that follow. -/
theorem attempt_askSession_of_repeated {f : Failure} (description : String) (left : Nat)
    (failed : (Service.ask o request s).1 = .fail f) (repeated : isRepeated (.fail f) = true) :
    ∃ s₁, attempt Service.note description (Service.askSession o request) (left + 1) s =
        attempt Service.note description (Service.askSession o request) left s₁ ∧
      s.Makes [(⟨o, request⟩, .fail f)] s₁ ∧ s₁.handles = s.handles ∧
      s₁.identified o = s.identified o ∧
      (s₁.endpoints o.endpoint).script request =
        (Endpoint.next ((s.endpoints o.endpoint).script request)).2 := by
  obtain ⟨makes, -, answer, after⟩ := Service.askSession_spec o request s
  rw [failed] at makes answer
  rw [after f failed] at makes
  refine ⟨(Service.ask o request s).2.note (announce description left f),
    attempt_of_repeats (Prod.ext answer (after f failed)) (Bool.and_eq_true_iff.mp repeated),
    makes.of_record rfl (.refl _), rfl, Service.identified_congr (Service.sessions_ask o request s),
    ?_⟩
  rw [← (Endpoint.script_answer _ request).2, ← Service.endpoints_ask]
  rfl

/-- Attempts to get a session meet the outcomes of their kind and leave handles alone, and the last
outcome comes out. -/
theorem attempt_askSession (o : ServiceOptions) (request : Request) (description : String)
    (left : Nat) (s : Service) :
    ∃ last, (met left ((s.endpoints o.endpoint).script request)).getLast? = some last ∧
      s.Makes ((met left ((s.endpoints o.endpoint).script request)).map (Prod.mk ⟨o, request⟩))
        (attempt Service.note description (Service.askSession o request) left s).2 ∧
      (attempt Service.note description (Service.askSession o request) left s).2.handles =
        s.handles ∧
      (attempt Service.note description (Service.askSession o request) left s).1 =
        (s.identified o last).mapError (surface description) := by
  -- Every repetition uses up one outcome.
  induction left generalizing s with
  | zero =>
    obtain ⟨makes, handles, -⟩ := Service.askSession_spec o request s
    rw [met_of_final (.inl rfl), attempt_askSession_of_final description (.inl rfl),
      ← (Endpoint.script_answer _ request).1]
    exact ⟨_, rfl, makes, handles, rfl⟩
  | succ left ih =>
    obtain ⟨makes, handles, -⟩ := Service.askSession_spec o request s
    have outcome : (Service.ask o request s).1 =
        (Endpoint.next ((s.endpoints o.endpoint).script request)).1 :=
      (Endpoint.script_answer _ request).1
    cases repeated : isRepeated (Service.ask o request s).1 with
    | false =>
      rw [met_of_final (.inr (outcome ▸ repeated)),
        attempt_askSession_of_final description (.inr repeated), ← outcome]
      exact ⟨_, rfl, makes, handles, rfl⟩
    | true =>
      rw [met, ← outcome, if_pos repeated]
      cases failed : (Service.ask o request s).1 with
      | accept reply =>
        rw [failed] at repeated
        contradiction
      | fail f =>
        rw [failed] at repeated
        obtain ⟨s₁, again, first, handles', identified, rest⟩ :=
          attempt_askSession_of_repeated description left failed repeated
        obtain ⟨last, ending, later, kept, result⟩ := ih s₁
        rw [rest] at ending later
        rw [identified] at result
        rw [again]
        refine ⟨last, ?_, first.trans later, kept.trans handles', result⟩
        rw [List.getLast?_cons, ending, Option.getD_some]

end Retry

namespace Channel

variable {o : ServiceOptions} {s : Service}

/-! ### A handle and a session -/

/-- When a handle can be had, one is had, and the attempts to get a session follow. -/
theorem connect_of_ready {request : Request} (notHandle : request ≠ .handle) (description : String)
    (ready : s.Ready o) :
    ∃ last, (Retry.met Retry.repetitions ((s.endpoints o.endpoint).script request)).getLast? =
        some last ∧
      s.Makes ((s.granting o).map (Prod.mk ⟨o, .handle⟩) ++
          (Retry.met Retry.repetitions ((s.endpoints o.endpoint).script request)).map
            (Prod.mk ⟨o, request⟩))
        (connect o description (Service.askSession o request) s).2 ∧
      (connect o description (Service.askSession o request) s).1 =
        (s.identified o last).mapError (Retry.surface description) := by
  have had := (Service.ready_iff_requestHandle o s).mp ready
  obtain ⟨makes, -, handles, rest⟩ := Service.requestHandle_spec o s
  rcases handled : Service.requestHandle o s with ⟨answer, s₁⟩
  rw [handled] at had makes rest
  obtain rfl : answer = .ok () := had
  have script : (s₁.endpoints o.endpoint).script request =
      (s.endpoints o.endpoint).script request := by
    rw [rest]
    cases request with
    | handle => contradiction
    | _ => rfl
  have identified : s₁.identified o = s.identified o := Service.identified_congr (by rw [rest])
  obtain ⟨last, ending, later, -, result⟩ :=
    Retry.attempt_askSession o request description Retry.repetitions s₁
  rw [script] at ending later
  rw [identified] at result
  rw [connect, handled]
  exact ⟨last, ending, makes.trans later, result⟩

/-- When no handle can be had, the refusal is passed on. -/
theorem connect_of_not_ready (request : Request) (description : String) (refused : ¬s.Ready o) :
    ∃ f, s.granting o = [.fail f] ∧
      s.Makes [(⟨o, .handle⟩, .fail f)]
        (connect o description (Service.askSession o request) s).2 ∧
      (connect o description (Service.askSession o request) s).1 = .error f := by
  have unknown : s.granting o = [(Endpoint.next (s.endpoints o.endpoint).handleScript).1] :=
    if_neg fun known => refused (.inl known)
  obtain ⟨makes, answer, -⟩ := Service.requestHandle_spec o s
  rw [unknown] at makes answer ⊢
  cases outcome : (Endpoint.next (s.endpoints o.endpoint).handleScript).1 with
  | accept reply => exact absurd (.inr (congrArg Outcome.isAccept outcome)) refused
  | fail f =>
    rw [outcome] at makes answer
    rcases handled : Service.requestHandle o s with ⟨result, s₁⟩
    rw [handled] at makes answer
    obtain rfl : result = .error f := answer
    rw [connect, handled]
    exact ⟨f, rfl, makes, rfl⟩

/-- Announcing a channel asks for nothing. -/
theorem makes_announce {blob : Blob} {chunkSize : ChunkSize} {event : String → String → Event}
    {history : List (Call × Outcome)} {opened : Except Failure String × Service}
    (makes : s.Makes history opened.2) :
    s.Makes history (announce o blob chunkSize event opened).2 := by
  obtain ⟨result, s₁⟩ := opened
  cases result with
  | error f => exact makes
  | ok uploadId => exact makes.of_record rfl (.refl s₁)

end Channel

end ResumableUpload
