import ResumableUpload.Proofs.Channel.Operations
import ResumableUpload.Proofs.Service.Failures

/-!
# Where operations break off

An operation that fails leaves the channel at the chunk that it could not send: everything before it
was accepted, and the chunk is still buffered as a whole. Flushing and closing leave the channel as
it was. Writing bytes also breaks off, and does nothing more, when storage for them cannot be had.

## Main definitions

* `Channel.LeftFull` — what leaves a full buffer behind.

## Main results

* `Channel.fill_eq_error`, `Channel.flush_eq_error`, `Channel.close_eq_error` — the failed
  operations.
* `Channel.failuresAhead_lt_of_transmit` — each failed attempt takes away one of the failures to
  come.
* `Channel.sends_of_fill_error`, `Channel.Sound.fill_begins` — what is sent before and after writing
  broke off.
* `Channel.Sound.act_full` — a full buffer is left by an attempt to send it that failed.
-/

namespace ResumableUpload.Channel

variable {ch ch' : Channel} {final : Bool} {f : Failure} {s s' : Service}

/-! ### Single attempts -/

/-- A failed attempt to send the buffered bytes takes away one of the failures to come. -/
theorem failuresAhead_lt_of_transmit (h : ch.transmit final s = (.error f, s')) :
    s'.failuresAhead ch.options < s.failuresAhead ch.options := by
  have noted : (s.note (.sendingChunk ch.blob.id ch.position ch.buffer.limit final)).failuresAhead
      ch.options = s.failuresAhead ch.options := rfl
  rw [transmit] at h
  split at h
  next g s₁ refused =>
    simp only [Prod.mk.injEq] at h
    obtain ⟨-, rfl⟩ := h
    have fewer := Service.failuresAhead_lt_of_requestHandle refused
    omega
  next s₁ had =>
    have asked := Service.sends_requestHandle ch.options
      (s.note (.sendingChunk ch.blob.id ch.position ch.buffer.limit final))
    rw [had] at asked
    have before : s₁.failuresAhead ch.options ≤ _ := Service.failuresAhead_le_of_sends asked
    have fewer := Service.failuresAhead_lt_of_upload h
    omega

/-- A flush that fails changes nothing but the service. -/
theorem flush_eq_error (h : ch.flush final s = (.error f, ch', s')) :
    ch' = ch ∧ ch.transmit final s = (.error f, s') := by
  rw [flush] at h
  split at h
  next g s₁ eq =>
    simp only [Prod.mk.injEq, Except.error.injEq] at h
    obtain ⟨rfl, rfl, rfl⟩ := h
    exact ⟨rfl, eq⟩
  · simp at h

/-- Closing that fails changes nothing but the service, and the channel is open. -/
theorem close_eq_error (h : ch.close s = (.error f, ch', s')) :
    ch' = ch ∧ ch.isOpen = true ∧ ch.transmit true s = (.error f, s') := by
  rw [close] at h
  split at h
  · simp at h
  next isOpen =>
    split at h
    next g ch₁ s₁ eq =>
      simp only [Prod.mk.injEq, Except.error.injEq] at h
      obtain ⟨rfl, rfl, rfl⟩ := h
      obtain ⟨rfl, failed⟩ := flush_eq_error eq
      exact ⟨rfl, by simpa using isOpen, failed⟩
    · simp at h

/-! ### Writing bytes -/

variable [Memory]

/-- Where the writing of bytes breaks off. After some chunks that were accepted storage for the next
byte cannot be had, or a full buffer cannot be sent. -/
theorem fill_eq_error {data : ByteArray} {offset : Nat}
    (h : ch.fill data offset s = (.error f, ch', s')) :
    ∃ sent t, s.Sends sent t ∧ (∀ d ∈ sent, d.accepted = true) ∧
      ((t = s' ∧ offset < data.size ∧
          ∃ shortage, ch'.buffer.allocate ch'.chunkSize.bytes = .error shortage) ∨
        (ch'.chunkSize.bytes ≤ ch'.buffer.limit ∧ ch'.transmit false t = (.error f, s'))) := by
  -- The chunks sent before are collected on the way; each way out of the recursion is one case.
  fun_induction fill ch data offset s with
  | case1 ch offset s full g s₁ eq =>
    simp only [Prod.mk.injEq, Except.error.injEq] at h
    obtain ⟨rfl, rfl, rfl⟩ := h
    exact ⟨[], s, .refl s, by simp, .inr ⟨full, eq⟩⟩
  | case2 ch offset s full s₁ eq ih =>
    obtain ⟨sent, t, sends, accepted, rest⟩ := ih h
    refine ⟨_, t, (sends_of_transmit_ok eq).trans sends, ?_, rest⟩
    intro d mem
    rcases List.mem_append.mp mem with mem | mem
    · rw [List.mem_singleton] at mem
      rw [mem, delivery]
    · exact accepted d mem
  | case3 ch offset s small rest shortage eq =>
    simp only [Prod.mk.injEq, Except.error.injEq] at h
    obtain ⟨-, rfl, rfl⟩ := h
    exact ⟨[], s, .refl s, by simp, .inl ⟨rfl, rest, shortage, eq⟩⟩
  | case4 ch offset s small rest buffer eq count ih =>
    obtain ⟨sent, t, sends, accepted, broken⟩ := ih h
    refine ⟨sent, t, sends, accepted, broken.imp_left ?_⟩
    rintro ⟨same, -, shortage⟩
    exact ⟨same, rest, shortage⟩
  | case5 ch offset s small done => simp at h

/-- What is sent by writing that breaks off: chunks that are accepted, and at most one that is
rejected, which the channel still holds. -/
theorem sends_of_fill_error {data : ByteArray} {offset : Nat}
    (h : ch.fill data offset s = (.error f, ch', s')) :
    ∃ sent, (∀ d ∈ sent, d.accepted = true) ∧
      (s.Sends sent s' ∨
        ch'.chunkSize.bytes ≤ ch'.buffer.limit ∧ s'.HasHandle ch'.options ∧
          s.Sends (sent ++ [ch'.delivery false false]) s') := by
  obtain ⟨sent, t, sends, accepted, ⟨rfl, -, -⟩ | ⟨full, failed⟩⟩ := fill_eq_error h
  · exact ⟨sent, accepted, .inl sends⟩
  · refine ⟨sent, accepted, ?_⟩
    rcases transmit_eq_error failed with ⟨-, none⟩ | ⟨known, rejected⟩
    · have sends := sends.trans none
      rw [List.append_nil] at sends
      exact .inl sends
    · exact .inr ⟨full, known, sends.trans rejected⟩

/-- Where a handle exists a full buffer is sent before anything else. -/
theorem Sound.fill_begins (sound : ch.Sound) (isOpen : ch.isOpen = true) {data : ByteArray}
    {result : Except Failure Nat} {sent : List Delivery}
    (full : ch.chunkSize.bytes ≤ ch.buffer.limit) (known : s.HasHandle ch.options)
    (h : ch.fill data 0 s = (result, ch', s')) (sends : s.Sends sent s') :
    ∃ accepted later, sent = ch.delivery false accepted :: later := by
  rw [fill, if_pos full] at h
  split at h
  next g s₁ failed =>
    simp only [Prod.mk.injEq] at h
    obtain ⟨-, -, rfl⟩ := h
    rcases transmit_eq_error failed with ⟨missing, -⟩ | ⟨-, rejected⟩
    · contradiction
    · exact ⟨false, [], sends.unique rejected⟩
  next s₁ passed =>
    obtain ⟨next, later, rest, -⟩ :=
      fill_spec ch.advance data 0 s₁ sound.advance isOpen (Nat.zero_le _) h
    exact ⟨true, later, sends.unique ((sends_of_transmit_ok passed).trans rest)⟩

/-! ### Full buffers -/

omit [Memory] in
/-- A buffer with nothing in use is not full. -/
theorem not_full_of_limit (nothing : ch.buffer.limit = 0) :
    ch.buffer.limit ≠ ch.chunkSize.bytes := by
  have pos := ch.chunkSize.pos
  omega

/-- A buffer for which storage cannot be had is not full. -/
theorem Sound.not_full_of_shortage (sound : ch.Sound) {shortage : Shortage}
    (h : ch.buffer.allocate ch.chunkSize.bytes = .error shortage) :
    ch.buffer.limit ≠ ch.chunkSize.bytes := by
  obtain ⟨released, -⟩ := sound.fits.allocate_eq_error h
  exact not_full_of_limit (by rw [released, ChunkBuffer.limit_released])

/-- What leaves a full buffer behind: nothing was done at all, or the last thing done was an attempt
to send that very chunk, and it failed. -/
def LeftFull (ch ch' : Channel) (s s' : Service) (failed : Failure → Prop) : Prop :=
  (ch' = ch ∧ s' = s) ∨ ∃ final f t, ch'.transmit final t = (.error f, s') ∧ failed f

/-- A write that leaves a full buffer. -/
theorem Sound.write_full (sound : ch.Sound) {payload : Payload} {result : Except Failure Nat}
    (h : ch.write payload s = (result, ch', s')) (full : ch'.buffer.limit = ch'.chunkSize.bytes) :
    ch.LeftFull ch' s s' fun f => result = .error f := by
  obtain ⟨data, rfl, isOpen, filled⟩ | ⟨-, rfl, rfl⟩ := write_cases h
  · obtain ⟨next, sent, -, spec⟩ := fill_spec ch data 0 s sound isOpen (Nat.zero_le _) filled
    cases result with
    | ok count =>
      obtain ⟨-, -, -, small⟩ := spec.complete count rfl
      rw [spec.keeps.chunkSize] at full
      omega
    | error f =>
      obtain ⟨sent, t, -, -, ⟨-, -, shortage, eq⟩ | ⟨-, failed⟩⟩ := fill_eq_error filled
      · exact absurd full (spec.sound.not_full_of_shortage eq)
      · exact .inr ⟨false, f, t, failed, rfl⟩
  · exact .inl ⟨rfl, rfl⟩

/-- An operation that leaves a full buffer. -/
theorem Sound.perform_full (sound : ch.Sound) {op : Operation} {result : Except Failure Reply}
    (h : ch.perform op s = (result, ch', s')) (full : ch'.buffer.limit = ch'.chunkSize.bytes) :
    ch.LeftFull ch' s s' fun f => result = .error f := by
  have closing : ∀ r, ch.close s = (r, ch', s') →
      ch.LeftFull ch' s s' fun f => (r.map fun _ => Reply.done) = .error f := by
    intro r closed
    cases r with
    | ok done =>
      obtain ⟨-, -, rfl, rfl⟩ | ⟨-, -, rfl, -⟩ | ⟨-, ⟨f, failed⟩, -⟩ := close_cases closed
      · exact .inl ⟨rfl, rfl⟩
      · exact absurd full (not_full_of_limit rfl)
      · contradiction
    | error f =>
      obtain ⟨rfl, -, failed⟩ := close_eq_error closed
      exact .inr ⟨true, f, s, failed, rfl⟩
  rcases perform_cases h with ⟨payload, r, rfl, wrote, rfl⟩ | ⟨final, r, rfl, flushed, rfl⟩ |
    ⟨r, -, closed, rfl⟩ | ⟨size, rfl, set, rfl⟩ | ⟨-, rfl, rfl⟩
  · rcases sound.write_full wrote full with idle | ⟨final, f, t, failed, rfl⟩
    · exact .inl idle
    · exact .inr ⟨final, f, t, failed, rfl⟩
  · cases r with
    | ok done =>
      obtain ⟨-, rfl, -⟩ | ⟨⟨f, failed⟩, -⟩ := flush_cases flushed
      · exact absurd full (not_full_of_limit rfl)
      · contradiction
    | error f =>
      obtain ⟨rfl, failed⟩ := flush_eq_error flushed
      exact .inr ⟨final, f, s, failed, rfl⟩
  · exact closing r closed
  · obtain ⟨-, -, -, chunkSize, -, rfl⟩ := setChunkSize_eq_ok set
    exact absurd full (not_full_of_limit rfl)
  · exact .inl ⟨rfl, rfl⟩

/-- An action that leaves a full buffer. -/
theorem Sound.act_full (sound : ch.Sound) {action : Action} {answer : Except Problem Answer}
    (h : ch.act action s = (answer, ch', s')) (full : ch'.buffer.limit = ch'.chunkSize.bytes) :
    ch.LeftFull ch' s s' fun f => answer = .error (.failure f) := by
  cases action with
  | operate op =>
    simp only [act] at h
    split at h
    next reply ch₁ s₁ performed =>
      simp only [Prod.mk.injEq] at h
      obtain ⟨rfl, rfl, rfl⟩ := h
      rcases sound.perform_full performed full with idle | ⟨final, f, t, -, failed⟩
      · exact .inl idle
      · contradiction
    next g ch₁ s₁ performed =>
      simp only [Prod.mk.injEq] at h
      obtain ⟨rfl, rfl, rfl⟩ := h
      rcases sound.perform_full performed full with idle | ⟨final, f, t, failed, eq⟩
      · exact .inl idle
      · obtain rfl := Except.error.inj eq
        exact .inr ⟨final, g, t, failed, rfl⟩
  | capture =>
    obtain ⟨op, result, eq, -⟩ | ⟨-, rfl, rfl⟩ := act_cases h
    · contradiction
    · exact .inl ⟨rfl, rfl⟩

end ResumableUpload.Channel
