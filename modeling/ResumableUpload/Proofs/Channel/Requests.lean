import ResumableUpload.Proofs.Channel.Emission
import ResumableUpload.Proofs.Service.Handles

/-!
# What operations ask of a service

An operation asks for something only if it has something to send. It asks with the options of its
channel, for a handle first if there is none. A handle that is refused ends the operation with that
failure, and leaves the channel as the flush found it that wanted to send its bytes.

## Main definitions

* `Channel.Requests` — all that an operation asks for.

## Main results

* `Channel.requests_fill`, `Channel.requests_perform` — the writing of bytes, and any operation.
* `Channel.eq_of_perform_error` — operations that leave the channel as it was when they fail.
-/

namespace ResumableUpload.Channel

variable {ch ch₁ ch' : Channel} {final : Bool} {due due' : Prop} {fails fails' : Failure → Prop}
  {history first second : List (Call × Outcome)} {s s₁ s' : Service}

/-- What is asked for on behalf of a channel, if anything is due at all. -/
structure Requests (ch : Channel) (due : Prop) (s : Service) (history : List (Call × Outcome))
    (fails : Failure → Prop) (ch' : Channel) (s' : Service) : Prop where
  /-- The requests, all with the channel's options. -/
  asks : s.Asks ch.options history fails s'
  /-- The options stay. -/
  options : ch'.options = ch.options
  /-- Nothing is asked for that is not due. -/
  due_of_asked : history ≠ [] → due
  /-- When a handle is refused, the channel is left as a flush found it that did nothing else. -/
  stopped : ∀ f, ((⟨ch.options, .handle⟩, .fail f) : Call × Outcome) ∈ history →
    ∃ final u, ch'.flush final u = (.error f, ch', s') ∧
      u.Makes [(⟨ch.options, .handle⟩, .fail f)] s'

namespace Requests

/-- Nothing is asked for. -/
theorem idle (due : Prop) (fails : Failure → Prop) (options : ch'.options = ch.options)
    (s : Service) : ch.Requests due s [] fails ch' s :=
  ⟨.refl _ fails s, options, by simp, by simp⟩

/-- The same said with other words. -/
theorem congr (h : ch.Requests due s history fails ch' s') (weaken : due → due')
    (same : ∀ f, fails f → fails' f) : ch.Requests due' s history fails' ch' s' :=
  ⟨h.asks.mono same, h.options, fun asked => weaken (h.due_of_asked asked), h.stopped⟩

/-- What is asked for in two parts, of which the first does not fail. -/
theorem trans (h₁ : ch.Requests due s first fails ch₁ s₁) (succeeds : ∀ f, ¬fails f)
    (h₂ : ch₁.Requests due' s₁ second fails' ch' s') :
    ch.Requests (due ∨ due') s (first ++ second) fails' ch' s' where
  asks := h₁.asks.trans succeeds (h₁.options ▸ h₂.asks)
  options := h₂.options.trans h₁.options
  due_of_asked asked := by
    by_cases later : second = []
    · rw [later, List.append_nil] at asked
      exact .inl (h₁.due_of_asked asked)
    · exact .inr (h₂.due_of_asked later)
  stopped f mem := by
    rcases List.mem_append.mp mem with mem | mem
    · exact absurd (h₁.asks.refused f mem) (succeeds f)
    · rw [← h₁.options] at mem ⊢
      exact h₂.stopped f mem

end Requests

/-- A flush whose chunk does not go out leaves the channel as it is. -/
theorem flush_of_transmit_error {f : Failure} (h : ch.transmit final s = (.error f, s')) :
    ch.flush final s = (.error f, ch, s') := by
  rw [flush, h]

/-- Sending the buffered bytes: a handle is asked for, if there is none, and then the chunk is sent
unless the handle is refused. -/
theorem asks_transmit {result : Except Failure Unit} (h : ch.transmit final s = (result, s')) :
    ∃ history, s.Asks ch.options history (fun f => result = .error f) s' ∧
      ∀ f, ((⟨ch.options, .handle⟩, .fail f) : Call × Outcome) ∈ history →
        s.Makes [(⟨ch.options, .handle⟩, .fail f)] s' := by
  have noted : s.Asks ch.options [] (fun _ => False)
      (s.note (.sendingChunk ch.blob.id ch.position ch.buffer.limit final)) :=
    (Service.Asks.refl _ _ s).of_record rfl (.refl s) rfl
  obtain ⟨history, asks, refusal⟩ := Service.asks_requestHandle ch.options
    (s.note (.sendingChunk ch.blob.id ch.position ch.buffer.limit final))
  have asks := noted.trans (fun _ => not_false) asks
  rw [List.nil_append] at asks
  rw [transmit] at h
  split at h
  next f s₁ eq =>
    simp only [Prod.mk.injEq] at h
    obtain ⟨rfl, rfl⟩ := h
    rw [eq] at asks refusal
    obtain rfl := refusal f rfl
    refine ⟨_, asks, fun g mem => ?_⟩
    obtain rfl : g = f := by simpa using mem
    exact asks.makes
  next s₁ eq =>
    rw [eq] at asks
    have known := Service.hasHandle_of_requestHandle eq
    have sent := Service.asks_upload (fun f => result = .error f) known (ch.chunk final)
    rw [h] at sent
    refine ⟨_, asks.trans (fun f => by simp) sent, fun f mem => ?_⟩
    rcases List.mem_append.mp mem with mem | mem
    · exact absurd (asks.refused f mem) (by simp)
    · simp at mem

/-- A flush asks for what its chunk needs. -/
theorem requests_flush {result : Except Failure Unit} (h : ch.flush final s = (result, ch', s')) :
    ∃ history, ch.Requests True s history (fun f => result = .error f) ch' s' := by
  have flushed := h
  rw [flush] at h
  split at h
  next f s₁ eq =>
    simp only [Prod.mk.injEq] at h
    obtain ⟨rfl, rfl, rfl⟩ := h
    obtain ⟨history, asks, refusal⟩ := asks_transmit eq
    refine ⟨history, asks, rfl, fun _ => trivial, fun g mem => ?_⟩
    obtain rfl : f = g := Except.error.inj (asks.refused g mem)
    exact ⟨final, s, flushed, refusal f mem⟩
  next s₁ eq =>
    simp only [Prod.mk.injEq] at h
    obtain ⟨rfl, rfl, rfl⟩ := h
    obtain ⟨history, asks, -⟩ := asks_transmit eq
    refine ⟨history, asks, rfl, fun _ => trivial, fun g mem => ?_⟩
    exact absurd (asks.refused g mem) (by simp)

variable [Memory]

/-- Writing bytes asks for something only if they fill the buffer. -/
theorem requests_fill {data : ByteArray} {offset : Nat} {result : Except Failure Nat}
    (h : ch.fill data offset s = (result, ch', s')) :
    ∃ history, ch.Requests (ch.FilledBy (data.size - offset)) s history
      (fun f => result = .error f) ch' s' := by
  fun_induction fill ch data offset s with
  | case1 ch offset s full f s₁ eq =>
    simp only [Prod.mk.injEq] at h
    obtain ⟨rfl, rfl, rfl⟩ := h
    obtain ⟨history, requests⟩ := requests_flush (flush_of_transmit_error eq)
    exact ⟨history, requests.congr (fun _ => .inl full) fun g failed => by simpa using failed⟩
  | case2 ch offset s full s₁ eq ih =>
    have flushed : ch.flush false s = (.ok (), ch.advance, s₁) := by rw [flush, eq]
    obtain ⟨first, requests⟩ := requests_flush flushed
    obtain ⟨second, later⟩ := ih h
    exact ⟨first ++ second, (requests.trans (fun f => by simp) later).congr
      (fun _ => .inl full) fun _ => id⟩
  | case3 ch offset s small rest shortage eq =>
    simp only [Prod.mk.injEq] at h
    obtain ⟨rfl, rfl, rfl⟩ := h
    exact ⟨[], .idle _ _ rfl s⟩
  | case4 ch offset s small rest buffer eq count ih =>
    obtain ⟨history, requests⟩ := ih h
    refine ⟨history, requests.asks, requests.options, fun asked => ?_, requests.stopped⟩
    exact (filledBy_take (Nat.lt_of_not_le small) eq).mp (requests.due_of_asked asked)
  | case5 ch offset s small done =>
    simp only [Prod.mk.injEq] at h
    obtain ⟨rfl, rfl, rfl⟩ := h
    exact ⟨[], .idle _ _ rfl s⟩

/-- Writing asks for something only if bytes fill the buffer of an open channel. -/
theorem requests_write {payload : Payload} {result : Except Failure Nat}
    (h : ch.write payload s = (result, ch', s')) :
    ∃ history, ch.Requests (ch.SendsOn (.write payload)) s history (fun f => result = .error f) ch'
      s' := by
  obtain ⟨data, rfl, isOpen, filled⟩ | ⟨-, rfl, rfl⟩ := write_cases h
  · obtain ⟨history, requests⟩ := requests_fill filled
    exact ⟨history, requests.congr (fun filled => ⟨isOpen, filled⟩) fun _ => id⟩
  · exact ⟨[], .idle _ _ rfl s'⟩

omit [Memory] in
/-- Closing asks for something only if the channel is open. -/
theorem requests_close {result : Except Failure Unit} (h : ch.close s = (result, ch', s')) :
    ∃ history, ch.Requests (ch.isOpen = true) s history (fun f => result = .error f) ch' s' := by
  rw [close] at h
  split at h
  · simp only [Prod.mk.injEq] at h
    obtain ⟨rfl, rfl, rfl⟩ := h
    exact ⟨[], .idle _ _ rfl s⟩
  next isOpen =>
    have isOpen : ch.isOpen = true := by simpa using isOpen
    split at h
    next f ch₁ s₁ eq =>
      simp only [Prod.mk.injEq] at h
      obtain ⟨rfl, rfl, rfl⟩ := h
      obtain ⟨history, requests⟩ := requests_flush eq
      exact ⟨history, requests.congr (fun _ => isOpen) fun g failed => by simpa using failed⟩
    next ch₁ s₁ eq =>
      simp only [Prod.mk.injEq] at h
      obtain ⟨rfl, rfl, rfl⟩ := h
      obtain ⟨history, requests⟩ := requests_flush eq
      refine ⟨history, requests.asks.of_record rfl (.refl s₁) rfl, requests.options,
        fun _ => isOpen, fun f mem => ?_⟩
      exact absurd (requests.asks.refused f mem) (by simp)

omit [Memory] in
/-- A failure told of another result is that failure. -/
theorem map_eq_error {ε α β : Type} {f : α → β} {r : Except ε α} {e : ε} (h : r = .error e) :
    r.map f = .error e := by
  rw [h]
  rfl

/-- An operation asks for something only if it has something to send. -/
theorem requests_perform {op : Operation} {result : Except Failure Reply}
    (h : ch.perform op s = (result, ch', s')) :
    ∃ history, ch.Requests (ch.SendsOn op) s history (fun f => result = .error f) ch' s' := by
  rcases perform_cases h with ⟨payload, r, rfl, wrote, rfl⟩ | ⟨final, r, rfl, flushed, rfl⟩ |
    ⟨r, rfl | rfl, closed, rfl⟩ | ⟨size, rfl, set, rfl⟩ | ⟨-, rfl, rfl⟩
  · obtain ⟨history, requests⟩ := requests_write wrote
    exact ⟨history, requests.congr id fun f => map_eq_error⟩
  · obtain ⟨history, requests⟩ := requests_flush flushed
    exact ⟨history, requests.congr id fun f => map_eq_error⟩
  · obtain ⟨history, requests⟩ := requests_close closed
    exact ⟨history, requests.congr id fun f => map_eq_error⟩
  · obtain ⟨history, requests⟩ := requests_close closed
    exact ⟨history, requests.congr (fun isOpen => ⟨rfl, isOpen⟩) fun f => map_eq_error⟩
  · obtain ⟨-, -, -, chunkSize, -, eq⟩ := setChunkSize_eq_ok set
    exact ⟨[], .idle _ _ (by rw [eq]) s'⟩
  · exact ⟨[], .idle _ _ rfl s'⟩

/-- Only writing changes a channel when it fails. -/
theorem eq_of_perform_error {op : Operation} {f : Failure}
    (noWrite : ∀ payload, op ≠ .write payload) (h : ch.perform op s = (.error f, ch', s')) :
    ch' = ch := by
  rcases perform_cases h with ⟨payload, r, rfl, -⟩ | ⟨final, r, rfl, flushed, failed⟩ |
    ⟨r, -, closed, failed⟩ | ⟨size, rfl, set, rfl⟩ | ⟨-, rfl, rfl⟩
  · exact absurd rfl (noWrite payload)
  · obtain ⟨rfl, -⟩ | ⟨-, rfl, -⟩ := flush_cases flushed
    · contradiction
    · rfl
  · obtain ⟨-, -, rfl, -⟩ | ⟨-, rfl, -⟩ | ⟨-, -, rfl, -⟩ := close_cases closed
    · rfl
    · contradiction
    · rfl
  · simp [perform, set] at h
  · rfl

end ResumableUpload.Channel
