import ResumableUpload.Proofs.Session.Connecting
import ResumableUpload.Session.Opening

/-!
# What creating a channel asks of a service

A channel that is made or restored asks for nothing. One that is opened asks for a handle, if there
is none, and then for a session, which may be repeated after a failure; if it succeeds, the last of
its calls is the one that was accepted.

## Main definitions

* `Identifies` — the last call was accepted, and so a session got its identifier.

## Main results

* `Channel.makes_attempt`, `Channel.asks_connect` — attempts to get a session, after a handle.
* `Origin.asks_create` — all that creating a channel asks for.
-/

namespace ResumableUpload

/-- The last call is this one, and it was accepted. It gave the session its identifier, which is
empty just when the reply was. -/
def Identifies (call : Call) (history : List (Call × Outcome)) (uploadId : String) : Prop :=
  ∃ reply, history.getLast? = some (call, .accept reply) ∧ (uploadId = "" ↔ reply = some "")

/-- What happened before the last call does not matter. -/
theorem Identifies.after {call : Call} {later : List (Call × Outcome)} {uploadId : String}
    (h : Identifies call later uploadId) (earlier : List (Call × Outcome)) :
    Identifies call (earlier ++ later) uploadId := by
  obtain ⟨reply, last, empty_iff⟩ := h
  exact ⟨reply, by rw [List.getLast?_append, last, Option.some_or], empty_iff⟩

namespace Channel

variable {options : ServiceOptions} {request : Request} {description : String} {s s' : Service}

/-! ### Sessions -/

/-- The attempts to get a session are all the same call, and if they succeed, it is the last one
that does. -/
theorem makes_attempt {left : Nat} {result : Except Failure String}
    (h : Retry.attempt Service.note description (Service.askSession options request) left s =
      (result, s')) :
    ∃ history, s.Makes history s' ∧ s'.handles = s.handles ∧
      (∀ x ∈ history, x.1 = ⟨options, request⟩) ∧
      ∀ uploadId, result = .ok uploadId → Identifies ⟨options, request⟩ history uploadId := by
  obtain ⟨last, ending, makes, handles, answer⟩ :=
    Retry.attempt_askSession options request description left s
  rw [h] at makes handles answer
  refine ⟨_, makes, handles, by simp, fun uploadId found => ?_⟩
  obtain ⟨reply, rfl, empty_iff⟩ :=
    Service.eq_empty_iff_of_identified (answer.symm.trans found)
  exact ⟨reply, by rw [List.getLast?_map, ending]; rfl, empty_iff⟩

/-- To connect is to make sure that there is a handle and then to attempt to get a session. -/
theorem asks_connect (notHandle : request ≠ .handle) {result : Except Failure String}
    (h : connect options description (Service.askSession options request) s = (result, s')) :
    ∃ history, s.Asks options history (fun f => result = .error f) s' ∧
      ∀ uploadId, result = .ok uploadId → Identifies ⟨options, request⟩ history uploadId := by
  obtain ⟨history, asks, -⟩ := Service.asks_requestHandle options s
  rw [connect] at h
  split at h
  next f s₁ eq =>
    simp only [Prod.mk.injEq] at h
    obtain ⟨rfl, rfl⟩ := h
    rw [eq] at asks
    exact ⟨history, asks.mono fun g failed => by simpa using failed, by simp⟩
  next s₁ eq =>
    rw [eq] at asks
    obtain ⟨later, makes, handles, same, identified⟩ := makes_attempt h
    have served : ∀ x ∈ later, x.1.options = options ∧ x.1.request ≠ .handle := by
      intro x mem
      rw [same x mem]
      exact ⟨rfl, notHandle⟩
    have asked : s₁.Asks options later (fun f => result = .error f) s' :=
      .of_served (Service.hasHandle_of_requestHandle eq) makes handles served
    exact ⟨_, asks.trans (fun f => by simp) asked, fun u eq => (identified u eq).after history⟩

/-- Announcing a channel asks for nothing more, and its session is the one that was opened. -/
theorem asks_announce (notHandle : request ≠ .handle) (blob : Blob) (chunkSize : ChunkSize)
    (event : String → String → Event) {result : Except Problem Channel}
    (h : announce options blob chunkSize event
      (connect options description (Service.askSession options request) s) = (result, s')) :
    ∃ history, s.Asks options history (fun f => result = .error (.failure f)) s' ∧
      ∀ ch, result = .ok ch → Identifies ⟨options, request⟩ history ch.uploadId := by
  cases connected : connect options description (Service.askSession options request) s with
  | mk answer s₁ =>
    obtain ⟨history, asks, identified⟩ := asks_connect notHandle connected
    rw [connected] at h
    cases answer with
    | error f =>
      simp only [announce, Prod.mk.injEq] at h
      obtain ⟨rfl, rfl⟩ := h
      exact ⟨history, asks.mono fun g failed => by simpa using failed, by simp⟩
    | ok uploadId =>
      simp only [announce, Prod.mk.injEq] at h
      obtain ⟨rfl, rfl⟩ := h
      have noted : s.Asks options history _ (s₁.note (event blob.id uploadId)) :=
        asks.of_record rfl (.refl s₁) rfl
      refine ⟨history, noted.mono fun f failed => by simp at failed, fun ch eq => ?_⟩
      obtain rfl := Except.ok.inj eq
      exact identified uploadId rfl

/-- Settling the chunk size asks for nothing. -/
theorem asks_settleChunkSize {requested : Value} {result : Except Problem ChunkSize}
    (h : settleChunkSize requested s = (result, s')) (options : ServiceOptions)
    (fails : Failure → Prop) : s.Asks options [] fails s' := by
  have noted : ∀ es, s.Asks options [] fails (s.noteAll es) :=
    fun es => (Service.Asks.refl options fails s).of_record rfl (.refl s) rfl
  unfold settleChunkSize at h
  split at h
  · split at h
    all_goals
      simp only [Prod.mk.injEq] at h
      obtain ⟨-, rfl⟩ := h
      exact noted _
  · split at h
    all_goals
      simp only [Prod.mk.injEq] at h
      obtain ⟨-, rfl⟩ := h
      exact .refl options fails s

end Channel

/-! ### Origins -/

variable [Memory]

/-- What creating a channel asks for: nothing, unless it is opened and its chunk size and its
address are good. If it is opened, the last call is the one that gave its session an identifier. -/
theorem Origin.asks_create {origin : Origin} {s s' : Service} {result : Except Problem Channel}
    (h : origin.create s = (result, s')) :
    ∃ history, s.Asks origin.options history (fun f => result = .error (.failure f)) s' ∧
      (history ≠ [] → origin.Connects s) ∧
      ∀ ch call, result = .ok ch → origin.session? = some call →
        Identifies call history ch.uploadId := by
  cases origin with
  | made options blob uploadId chunkSize position buffered isOpen =>
    obtain ⟨-, rfl⟩ := Prod.mk.inj h
    exact ⟨[], .refl _ _ _, by simp, by simp [session?]⟩
  | restored snapshot =>
    obtain ⟨-, rfl⟩ := Prod.mk.inj h
    exact ⟨[], (Service.Asks.refl _ _ s).of_record rfl (.refl s) rfl, by simp, by simp [session?]⟩
  | opened options blob session requested =>
    change Channel.openBlob options blob session requested s = (result, s') at h
    rw [Channel.openBlob] at h
    split at h
    next problem s₁ settled =>
      simp only [Prod.mk.injEq] at h
      obtain ⟨rfl, rfl⟩ := h
      exact ⟨[], Channel.asks_settleChunkSize settled _ _, by simp, by simp⟩
    next chunkSize s₁ settled =>
      obtain ⟨history, asks, identified⟩ := Channel.asks_announce (by simp) _ _ _ h
      have asks := (Channel.asks_settleChunkSize settled options fun _ => False).trans
        (fun _ => not_false) asks
      refine ⟨history, asks, fun _ => ?_, fun ch call eq called => ?_⟩
      · rw [Connects, settled]
        rfl
      · obtain rfl := Option.some.inj called
        exact identified ch eq
  | openedSigned options url requested =>
    change Channel.openSigned options url requested s = (result, s') at h
    rw [Channel.openSigned_eq] at h
    split at h
    next problem s₁ settled =>
      simp only [Prod.mk.injEq] at h
      obtain ⟨rfl, rfl⟩ := h
      exact ⟨[], Channel.asks_settleChunkSize settled _ _, by simp, by simp⟩
    next chunkSize s₁ settled =>
      split at h
      next fault named =>
        simp only [Prod.mk.injEq] at h
        obtain ⟨rfl, rfl⟩ := h
        exact ⟨[], Channel.asks_settleChunkSize settled _ _, by simp, by simp⟩
      next blob named =>
        obtain ⟨history, asks, identified⟩ := Channel.asks_announce (by simp) _ _ _ h
        have asks := (Channel.asks_settleChunkSize settled options fun _ => False).trans
          (fun _ => not_false) asks
        refine ⟨history, asks, fun _ => ?_, fun ch call eq called => ?_⟩
        · rw [Connects, settled, named]
          exact ⟨rfl, rfl⟩
        · obtain rfl := Option.some.inj called
          exact identified ch eq

end ResumableUpload
