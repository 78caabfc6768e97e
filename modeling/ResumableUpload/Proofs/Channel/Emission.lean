import ResumableUpload.Proofs.Channel.Operations
import ResumableUpload.Session.Ending

/-!
# When an operation sends something

A channel gets its handle from the service once and for all: as soon as one chunk was sent there is
a handle, and from then on an operation that has something to send does send it. What is sent ends
the object just when the operation was to send the final chunk and succeeds.

## Main definitions

* `Emission` — all that counts of what is sent: whether there is anything, and whether it ends the
  object.

## Main results

* `Emission.trans` — what is sent in two parts.
* `Channel.emission_fill`, `Channel.emission_perform` — the writing of bytes, and any operation.
-/

namespace ResumableUpload

/-! ### Emissions -/

/-- Of no chunks none follows a final one. -/
theorem EndsOnce.nil : EndsOnce [] := List.Pairwise.nil

/-- No chunk follows a single one. -/
theorem EndsOnce.single (d : Delivery) : EndsOnce [d] := List.pairwise_singleton _ d

/-- Two rows end at most once together when each does, and the second is empty or the first does not
end. -/
theorem endsOnce_append {first second : List Delivery} :
    EndsOnce (first ++ second) ↔ EndsOnce first ∧ EndsOnce second ∧
      ((∃ d ∈ first, d.accepted = true ∧ d.chunk.last = true) → second = []) := by
  rw [EndsOnce]
  rw [List.pairwise_append]
  refine and_congr_right fun _ => and_congr_right fun _ => ?_
  constructor
  · rintro apart ⟨d, mem, ends⟩
    cases second with
    | nil => rfl
    | cons e second => exact absurd ends (apart d mem e List.mem_cons_self)
  · rintro nothing d mem e mem' ends
    rw [nothing ⟨d, mem, ends⟩] at mem'
    contradiction

/-- What is sent between two states of a service: something, if it is `due` and there is a handle,
and an accepted final chunk, if `ends` holds. -/
structure Emission (o : ServiceOptions) (due ends : Prop) (s : Service) (sent : List Delivery)
    (s' : Service) : Prop where
  /-- These are the chunks. -/
  sends : s.Sends sent s'
  /-- The handle stays, and there is one if anything was sent. -/
  handle : s.HasHandle o ∨ sent ≠ [] → s'.HasHandle o
  /-- Nothing is sent that is not due. -/
  due_of_sent : sent ≠ [] → due
  /-- With a handle something is sent when it is due. -/
  sent_of_due : s.HasHandle o → due → sent ≠ []
  /-- Nothing follows an accepted final chunk. -/
  once : EndsOnce sent
  /-- When there is an accepted final chunk. -/
  final_iff : (∃ d ∈ sent, d.accepted = true ∧ d.chunk.last = true) ↔ ends

namespace Emission

variable {o : ServiceOptions} {due due' ends ends' : Prop} {s s' s₁ : Service}
  {sent first second : List Delivery}

/-- The same said with other words. -/
theorem congr (h : Emission o due ends s sent s') (due_iff : due ↔ due')
    (ends_iff : ends ↔ ends') : Emission o due' ends' s sent s' := by
  rw [← propext due_iff, ← propext ends_iff]
  exact h

/-- Events do not count. -/
theorem noteAll (h : Emission o due ends s sent s') (es : List Event) :
    Emission o due ends s sent (s'.noteAll es) :=
  ⟨h.sends.noteAll es, h.handle, h.due_of_sent, h.sent_of_due, h.once, h.final_iff⟩

/-- Where nothing is due nothing is sent. -/
theorem idle (nothing : ¬ due) (s : Service) : Emission o due False s [] s where
  sends := .refl s
  handle known := by simpa using known
  due_of_sent := by simp
  sent_of_due _ due := absurd due nothing
  once := .nil
  final_iff := by simp

/-- What is sent in two parts, of which the first does not end the object. -/
theorem trans (h₁ : Emission o due False s first s₁)
    (h₂ : Emission o due' ends s₁ second s') :
    Emission o (due ∨ due') ends s (first ++ second) s' where
  sends := h₁.sends.trans h₂.sends
  handle known := by
    refine h₂.handle ?_
    by_cases later : second = []
    · rw [later, List.append_nil] at known
      exact .inl (h₁.handle known)
    · exact .inr later
  due_of_sent some_sent := by
    by_cases later : second = []
    · rw [later, List.append_nil] at some_sent
      exact .inl (h₁.due_of_sent some_sent)
    · exact .inr (h₂.due_of_sent later)
  sent_of_due known := by
    rintro (due | due)
    · exact List.append_ne_nil_of_left_ne_nil (h₁.sent_of_due known due) second
    · exact List.append_ne_nil_of_right_ne_nil first (h₂.sent_of_due (h₁.handle (.inl known)) due)
  once := by
    refine endsOnce_append.mpr ⟨h₁.once, h₂.once, fun final => ?_⟩
    exact absurd (h₁.final_iff.mp final) not_false
  final_iff := by
    rw [← h₂.final_iff]
    constructor
    · rintro ⟨d, mem, final⟩
      rcases List.mem_append.mp mem with mem | mem
      · exact absurd (h₁.final_iff.mp ⟨d, mem, final⟩) not_false
      · exact ⟨d, mem, final⟩
    · rintro ⟨d, mem, final⟩
      exact ⟨d, List.mem_append_right first mem, final⟩

end Emission

namespace Channel

variable {ch ch' : Channel} {final : Bool} {s s' : Service}

/-! ### Single chunks -/

/-- Sending the buffered bytes. -/
theorem emission_transmit {result : Except Failure Unit} (h : ch.transmit final s = (result, s')) :
    ∃ sent, Emission ch.options True (result.isOk = true ∧ final = true) s sent s' := by
  rcases transmit_cases h with ⟨unknown, ⟨f, rfl⟩, sends⟩ | ⟨outcome, rfl, known, sends⟩
  · refine ⟨[], sends, ?_, by simp, fun known => absurd known unknown, .nil, ?_⟩
    · rintro (known | something)
      · exact absurd known unknown
      · exact absurd rfl something
    · simp [Except.isOk, Except.toBool]
  · refine ⟨_, sends, fun _ => known, fun _ => trivial, by simp, .single _, ?_⟩
    cases outcome with
    | accept reply =>
      simp [delivery, chunk, Outcome.isAccept, Outcome.toExcept, Except.isOk, Except.toBool]
    | fail f => simp [delivery, Outcome.isAccept, Outcome.toExcept, Except.isOk, Except.toBool]

/-! ### Writing bytes -/

variable [Memory]

/-- The bytes that are left fill the buffer after some were taken just when all of them did before.
-/
theorem filledBy_take {buffer : ChunkBuffer} {data : ByteArray} {offset : Nat}
    (small : ch.buffer.limit < ch.chunkSize.bytes)
    (allocated : ch.buffer.allocate ch.chunkSize.bytes = .ok buffer) :
    FilledBy { ch with buffer := buffer.take data offset (ch.room data offset) }
        (data.size - (offset + ch.room data offset)) ↔
      ch.FilledBy (data.size - offset) := by
  obtain ⟨limit, bytes, storage⟩ := ChunkBuffer.allocate_eq_ok allocated
  have limit' : (buffer.take data offset (ch.room data offset)).limit =
      ch.buffer.limit + ch.room data offset := by rw [ChunkBuffer.take, limit]
  have room : ch.room data offset =
      min (ch.chunkSize.bytes - ch.buffer.limit) (data.size - offset) := rfl
  rw [FilledBy, limit']
  constructor
  · rintro (full | ⟨enough, -⟩)
    · change ch.chunkSize.bytes ≤ ch.buffer.limit + ch.room data offset at full
      exact .inr ⟨by omega, buffer, allocated⟩
    · change ch.chunkSize.bytes ≤ ch.buffer.limit + ch.room data offset + _ at enough
      exact .inr ⟨by omega, buffer, allocated⟩
  · rintro (full | ⟨enough, -⟩)
    · omega
    · have full : ch.chunkSize.bytes ≤ ch.buffer.limit + ch.room data offset := by omega
      exact .inl full

/-- Writing bytes sends something just when they fill the buffer, and never a final chunk. -/
theorem emission_fill {data : ByteArray} {offset : Nat} {result : Except Failure Nat}
    (h : ch.fill data offset s = (result, ch', s')) :
    ∃ sent, Emission ch.options (ch.FilledBy (data.size - offset)) False s sent s' ∧
      ch'.options = ch.options := by
  -- What is said of the bytes left stays true when some of them are taken, so that only the sending
  -- of a full buffer counts.
  fun_induction fill ch data offset s with
  | case1 ch offset s full f s₁ eq =>
    simp only [Prod.mk.injEq] at h
    obtain ⟨rfl, rfl, rfl⟩ := h
    obtain ⟨sent, emission⟩ := emission_transmit eq
    exact ⟨sent, emission.congr (by simp [FilledBy, full]) (by simp), rfl⟩
  | case2 ch offset s full s₁ eq ih =>
    obtain ⟨first, emission⟩ := emission_transmit eq
    obtain ⟨second, later, options⟩ := ih h
    have once : Emission ch.options True False s first s₁ := emission.congr .rfl (by simp)
    exact ⟨first ++ second, (once.trans later).congr (by simp [FilledBy, full]) .rfl, options⟩
  | case3 ch offset s small rest shortage eq =>
    simp only [Prod.mk.injEq] at h
    obtain ⟨rfl, rfl, rfl⟩ := h
    exact ⟨[], .idle (by simp [FilledBy, small, eq]) s, rfl⟩
  | case4 ch offset s small rest buffer eq count ih =>
    obtain ⟨sent, emission, options⟩ := ih h
    exact ⟨sent, emission.congr (filledBy_take (Nat.lt_of_not_le small) eq) .rfl, options⟩
  | case5 ch offset s small done =>
    simp only [Prod.mk.injEq] at h
    obtain ⟨rfl, rfl, rfl⟩ := h
    refine ⟨[], .idle ?_ s, rfl⟩
    rintro (full | ⟨enough, -⟩)
    · exact small full
    · omega

/-! ### Operations -/

omit [Memory] in
/-- Any flush sends something. -/
theorem emission_flush {result : Except Failure Unit} (h : ch.flush final s = (result, ch', s')) :
    ∃ sent, Emission ch.options True (result.isOk = true ∧ final = true) s sent s' ∧
      ch'.options = ch.options := by
  rw [flush] at h
  split at h
  next f s₁ eq =>
    simp only [Prod.mk.injEq] at h
    obtain ⟨rfl, rfl, rfl⟩ := h
    obtain ⟨sent, emission⟩ := emission_transmit eq
    exact ⟨sent, emission, rfl⟩
  next s₁ eq =>
    simp only [Prod.mk.injEq] at h
    obtain ⟨rfl, rfl, rfl⟩ := h
    obtain ⟨sent, emission⟩ := emission_transmit eq
    exact ⟨sent, emission, rfl⟩

omit [Memory] in
/-- Closing sends something just when the channel is open. -/
theorem emission_close {result : Except Failure Unit} (h : ch.close s = (result, ch', s')) :
    ∃ sent, Emission ch.options (ch.isOpen = true) (result.isOk = true ∧ ch.isOpen = true) s sent
      s' ∧ ch'.options = ch.options := by
  cases isOpen : ch.isOpen with
  | false =>
    simp only [close, isOpen, Bool.not_false, if_true, Prod.mk.injEq] at h
    obtain ⟨rfl, rfl, rfl⟩ := h
    have idle : Emission ch.options (false = true) False s [] s := .idle (by simp) s
    exact ⟨[], idle.congr .rfl (by simp), rfl⟩
  | true =>
    simp only [close, isOpen, Bool.not_true, Bool.false_eq_true, if_false] at h
    split at h
    next f ch₁ s₁ eq =>
      simp only [Prod.mk.injEq] at h
      obtain ⟨rfl, rfl, rfl⟩ := h
      obtain ⟨sent, emission, options⟩ := emission_flush eq
      exact ⟨sent, emission.congr (by simp) .rfl, options⟩
    next ch₁ s₁ eq =>
      simp only [Prod.mk.injEq] at h
      obtain ⟨rfl, rfl, rfl⟩ := h
      obtain ⟨sent, emission, options⟩ := emission_flush eq
      exact ⟨sent, (emission.noteAll _).congr (by simp) .rfl, options⟩

/-- Writing sends something just when bytes fill the buffer of an open channel, and never a final
chunk. -/
theorem emission_write {payload : Payload} {result : Except Failure Nat}
    (h : ch.write payload s = (result, ch', s')) :
    ∃ sent, Emission ch.options (ch.SendsOn (.write payload)) False s sent s' ∧
      ch'.options = ch.options := by
  cases isOpen : ch.isOpen with
  | false =>
    simp only [write, isOpen, Bool.not_false, if_true, Prod.mk.injEq] at h
    obtain ⟨-, rfl, rfl⟩ := h
    refine ⟨[], .idle ?_ s, rfl⟩
    cases payload <;> simp [SendsOn, isOpen]
  | true =>
    simp only [write, isOpen, Bool.not_true, Bool.false_eq_true, if_false] at h
    cases payload with
    | bytes data =>
      obtain ⟨sent, emission, options⟩ := emission_fill h
      exact ⟨sent, emission.congr (by simp [SendsOn, isOpen]) .rfl, options⟩
    | noBytes typeName =>
      simp only [Prod.mk.injEq] at h
      obtain ⟨-, rfl, rfl⟩ := h
      exact ⟨[], .idle not_false s, rfl⟩
    | scattered =>
      simp only [Prod.mk.injEq] at h
      obtain ⟨-, rfl, rfl⟩ := h
      exact ⟨[], .idle not_false s, rfl⟩

/-- An operation sends something just when it has something to send, and ends the object just when
it sends the final chunk and succeeds. -/
theorem emission_perform {op : Operation} {result : Except Failure Reply}
    (h : ch.perform op s = (result, ch', s')) :
    ∃ sent, Emission ch.options (ch.SendsOn op) (result.isOk = true ∧ ch.EndsOn op) s sent s' ∧
      ch'.options = ch.options := by
  rcases perform_cases h with ⟨payload, r, rfl, wrote, rfl⟩ | ⟨final, r, rfl, flushed, rfl⟩ |
    ⟨r, rfl | rfl, closed, rfl⟩ | ⟨size, rfl, set, rfl⟩ | ⟨⟨size, rfl⟩ | rfl, rfl, rfl⟩
  · obtain ⟨sent, emission, options⟩ := emission_write wrote
    exact ⟨sent, emission.congr .rfl (by simp [EndsOn]), options⟩
  · rw [isOk_map]
    exact emission_flush flushed
  · rw [isOk_map]
    exact emission_close closed
  · obtain ⟨sent, emission, options⟩ := emission_close closed
    rw [isOk_map]
    exact ⟨sent, emission.congr (by simp [SendsOn]) (by simp [EndsOn]), options⟩
  · obtain ⟨-, -, -, chunkSize, -, rfl⟩ := setChunkSize_eq_ok set
    have idle : Emission ch.options False False s' [] s' := .idle not_false s'
    exact ⟨[], idle.congr .rfl (by simp [EndsOn]), rfl⟩
  · have idle : Emission ch'.options False False s' [] s' := .idle not_false s'
    exact ⟨[], idle.congr .rfl (by simp [EndsOn]), rfl⟩
  · have idle : Emission ch'.options False False s' [] s' := .idle not_false s'
    exact ⟨[], idle.congr (by simp [SendsOn]) (by simp [EndsOn]), rfl⟩

end Channel

end ResumableUpload
