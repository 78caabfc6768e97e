import ResumableUpload.Proofs.Channel.Chunking
import ResumableUpload.Proofs.Channel.Interruption
import ResumableUpload.Proofs.Channel.Requests
import ResumableUpload.Proofs.Session.Reachable

/-!
# Failures leave channels as they were

An operation that fails leaves the channel exactly as it was, with one exception: a write of bytes
that got somewhere before it broke off, and then the channel reaches further than before. A write
that does not even get a full chunk out of the way that was left over changes nothing, and one that
is turned away at once does not even concern the service.

## Main definitions

* `Channel.Admits` — what can be written at all.

## Main results

* `Channel.Sound.fill_error_cases` — writing that breaks off changed nothing, or took bytes in.
* `Channel.sends_of_perform_error` — what other operations send when they fail.
* `Channel.intact_of_error` — what failed operations leave behind.
-/

namespace ResumableUpload.Channel

variable {ch ch' : Channel} {f : Failure} {s s' : Service}

/-- The payload can be written: it consists of bytes, and the channel is open. -/
def Admits (ch : Channel) : Payload → Prop
  | .bytes _ => ch.isOpen = true
  | _ => False

/-! ### Writing -/

section Machine

variable [Memory]

/-- What cannot be written is turned away, and nothing happens. -/
theorem write_of_not_admits {payload : Payload} (refused : ¬ch.Admits payload)
    {result : Except Failure Nat} (h : ch.write payload s = (result, ch', s')) :
    (∃ f, result = .error f) ∧ ch' = ch ∧ s' = s := by
  obtain ⟨data, rfl, isOpen, -⟩ | idle := write_cases h
  · exact absurd isOpen refused
  · exact idle

/-- Storage that is there need not be allocated. -/
theorem storage_eq_none_of_shortage {size : Nat} {b : ChunkBuffer} {shortage : Shortage}
    (h : b.allocate size = .error shortage) : b.storage = none := by
  rw [ChunkBuffer.allocate] at h
  split at h
  · contradiction
  next storage => exact storage

/-- A full buffer has storage. -/
theorem Sound.storage_ne_none (sound : ch.Sound) (full : ch.chunkSize.bytes ≤ ch.buffer.limit) :
    ch.buffer.storage ≠ none := by
  intro missing
  have pos := ch.chunkSize.pos
  have contents : ch.buffer.contents = .empty := by rw [ChunkBuffer.contents, missing]
  have size := sound.size_contents
  rw [contents, ByteArray.size_empty] at size
  omega

/-- Writing that breaks off changed nothing, which takes a full buffer or one without storage; or it
took bytes in. -/
theorem Sound.fill_error_cases (sound : ch.Sound) (isOpen : ch.isOpen = true) {data : ByteArray}
    {offset : Nat} (offset_le : offset ≤ data.size)
    (h : ch.fill data offset s = (.error f, ch', s')) :
    (ch' = ch ∧ (ch.chunkSize.bytes ≤ ch.buffer.limit ∨ ch.buffer.storage = none)) ∨
      ch.reach < ch'.reach := by
  fun_induction fill ch data offset s with
  | case1 ch offset s full g s₁ eq =>
    simp only [Prod.mk.injEq] at h
    exact .inl ⟨h.2.1.symm, .inl full⟩
  | case2 ch offset s full s₁ eq ih =>
    -- The advanced channel reaches as far, has storage, and is not full.
    obtain ⟨-, full' | missing⟩ | further := ih sound.advance isOpen offset_le h
    · have pos := ch.chunkSize.pos
      rw [limit_advance, chunkSize_advance] at full'
      omega
    · exact absurd missing (sound.storage_ne_none full)
    · refine .inr (Nat.lt_of_le_of_lt ?_ further)
      simp [reach]
  | case3 ch offset s small rest shortage eq =>
    simp only [Prod.mk.injEq] at h
    exact .inl ⟨h.2.1.symm, .inr (storage_eq_none_of_shortage eq)⟩
  | case4 ch offset s small rest buffer eq count ih =>
    obtain ⟨sound', -⟩ := sound.flow_take isOpen offset_le eq
    obtain ⟨limit, -⟩ := ChunkBuffer.allocate_eq_ok eq
    have taken : 0 < ch.room data offset := by
      rw [room]
      omega
    have further : ch.reach <
        reach { ch with buffer := buffer.take data offset (ch.room data offset) } := by
      simp only [reach, ChunkBuffer.take, limit]
      omega
    obtain ⟨rfl, -⟩ | later := ih sound' isOpen (add_room_le offset_le) h
    · exact .inr further
    · exact .inr (Nat.lt_trans further later)
  | case5 ch offset s small done => simp at h

/-- A full chunk was left over, and nothing of what the failed write sent was accepted: the channel
is as it was. -/
theorem Sound.eq_of_fill_error (sound : ch.Sound) (isOpen : ch.isOpen = true) {data : ByteArray}
    (full : ch.buffer.limit = ch.chunkSize.bytes) (h : ch.fill data 0 s = (.error f, ch', s'))
    (rejected : ∀ d ∈ s.deliveriesSince s', d.accepted = false) : ch' = ch := by
  obtain ⟨same, -⟩ | further := sound.fill_error_cases isOpen (Nat.zero_le _) h
  · exact same
  · -- Nothing was accepted, so that a channel that reaches further would hold more than one chunk.
    obtain ⟨next, sent, sends, filled⟩ := fill_spec ch data 0 s sound isOpen (Nat.zero_le _) h
    rw [sends.deliveriesSince] at rejected
    have nothing : acceptedBytes sent = .empty := by
      have none : sent.filter (·.accepted) = [] := by simpa using rejected
      rw [← acceptedBytes_filter, none, acceptedBytes_nil]
    have position := filled.flow.position
    rw [nothing, ByteArray.size_empty, Nat.add_zero] at position
    have limit_le := filled.sound.limit_le
    rw [filled.keeps.chunkSize] at limit_le
    rw [reach, reach] at further
    omega

/-! ### Any operation -/

/-- An operation that fails without writing sends at most one chunk, and none that is accepted. -/
theorem sends_of_perform_error {op : Operation} (noWrite : ∀ payload, op ≠ .write payload)
    (h : ch.perform op s = (.error f, ch', s')) :
    s.Sends [] s' ∨ ∃ final, s.Sends [ch.delivery final false] s' := by
  rcases perform_cases h with ⟨payload, r, rfl, -⟩ | ⟨final, r, -, flushed, failed⟩ |
    ⟨r, -, closed, failed⟩ | ⟨size, -, -, rfl⟩ | ⟨-, -, rfl⟩
  · exact absurd rfl (noWrite payload)
  · obtain ⟨rfl, -⟩ | ⟨-, -, sends⟩ := flush_cases flushed
    · contradiction
    · exact sends.imp_right fun rejected => ⟨final, rejected⟩
  · obtain ⟨-, -, -, rfl⟩ | ⟨-, rfl, -⟩ | ⟨-, -, -, sends⟩ := close_cases closed
    · exact .inl (.refl s')
    · contradiction
    · exact sends.imp_right fun rejected => ⟨true, rejected⟩
  · exact .inl (.refl s')
  · exact .inl (.refl s')

/-- A write performed is a write. -/
theorem write_of_perform {payload : Payload} {result : Except Failure Reply}
    (h : ch.perform (.write payload) s = (result, ch', s')) :
    ∃ r, ch.write payload s = (r, ch', s') ∧ result = r.map .wrote := by
  simp only [perform, Prod.mk.injEq] at h
  obtain ⟨rfl, rfl, rfl⟩ := h
  exact ⟨_, rfl, rfl⟩

/-- What cannot be written is turned away when it is performed, too. -/
theorem perform_of_not_admits {payload : Payload} (refused : ¬ch.Admits payload)
    {result : Except Failure Reply} (h : ch.perform (.write payload) s = (result, ch', s')) :
    (∃ f, result = .error f) ∧ ch' = ch ∧ s' = s := by
  obtain ⟨r, wrote, rfl⟩ := write_of_perform h
  obtain ⟨⟨f, rfl⟩, idle⟩ := write_of_not_admits refused wrote
  exact ⟨⟨f, rfl⟩, idle⟩

/-- Bytes that are written to an open channel and fail are written on the way to the failure. -/
theorem fill_of_perform_error {data : ByteArray} (isOpen : ch.isOpen = true)
    (h : ch.perform (.write (.bytes data)) s = (.error f, ch', s')) :
    ch.fill data 0 s = (.error f, ch', s') := by
  obtain ⟨r, wrote, failed⟩ := write_of_perform h
  rw [write_bytes isOpen] at wrote
  cases r with
  | ok count => contradiction
  | error g =>
    obtain rfl : f = g := Except.error.inj failed
    exact wrote

/-- Without bytes to write, or on a closed channel, an operation that fails changes nothing. -/
theorem eq_of_perform_error_of_no_bytes {op : Operation}
    (idle : (∀ data, op ≠ .write (.bytes data)) ∨ ch.isOpen = false)
    (h : ch.perform op s = (.error f, ch', s')) : ch' = ch := by
  by_cases written : ∃ payload, op = .write payload
  · obtain ⟨payload, rfl⟩ := written
    have refused : ¬ch.Admits payload := by
      cases payload with
      | bytes data =>
        have closed := idle.resolve_left fun other => other data rfl
        simp [Admits, closed]
      | noBytes typeName => exact not_false
      | scattered => exact not_false
    exact (perform_of_not_admits refused h).2.1
  · exact eq_of_perform_error (fun payload eq => written ⟨payload, eq⟩) h

/-- An operation that fails changed nothing, or it is a write of bytes to an open channel that took
bytes in. -/
theorem Sound.perform_error_cases (sound : ch.Sound) {op : Operation}
    (h : ch.perform op s = (.error f, ch', s')) :
    ch' = ch ∨ (∃ data, op = .write (.bytes data)) ∧ ch.isOpen = true ∧ ch.reach < ch'.reach := by
  by_cases idle : (∀ data, op ≠ .write (.bytes data)) ∨ ch.isOpen = false
  · exact .inl (eq_of_perform_error_of_no_bytes idle h)
  · simp only [not_or, not_forall, not_not, Bool.not_eq_false] at idle
    obtain ⟨⟨data, rfl⟩, isOpen⟩ := idle
    obtain ⟨same, -⟩ | further :=
      sound.fill_error_cases isOpen (Nat.zero_le _) (fill_of_perform_error isOpen h)
    · exact .inl same
    · exact .inr ⟨⟨data, rfl⟩, isOpen, further⟩

/-- When a full chunk was left over, and nothing of what the failed operation sent was accepted,
nothing changed. -/
theorem Sound.eq_of_perform_error_of_full (sound : ch.Sound) {op : Operation}
    (full : ch.buffer.limit = ch.chunkSize.bytes) (h : ch.perform op s = (.error f, ch', s'))
    (rejected : ∀ d ∈ s.deliveriesSince s', d.accepted = false) : ch' = ch := by
  obtain same | ⟨⟨data, rfl⟩, isOpen, -⟩ := sound.perform_error_cases h
  · exact same
  · exact sound.eq_of_fill_error isOpen full (fill_of_perform_error isOpen h) rejected

/-- What failed operations leave behind, whatever the service does. A channel is exactly as it was
after any failure, unless bytes were written to it while it was open, and even then it is as it was
or reaches further; it is as it was, too, when a full chunk was left over and nothing of what the
write sent was accepted. What fails without writing sends at most one chunk. What cannot be written
fails, and like the setting of the chunk size it is nothing to the service. Leaving a scope that
failed does nothing at all. -/
theorem intact_of_error (reachable : ch.Reachable) {op : Operation}
    {result : Except Failure Reply} (h : ch.perform op s = (result, ch', s')) :
    (∀ f, result = .error f →
      ((∀ data, op ≠ .write (.bytes data)) ∨ ch.isOpen = false → ch' = ch) ∧
      (ch.buffer.limit = ch.chunkSize.bytes →
        (∀ d ∈ s.deliveriesSince s', d.accepted = false) → ch' = ch) ∧
      (ch' = ch ∨ (∃ data, op = .write (.bytes data)) ∧ ch.isOpen = true ∧ ch.reach < ch'.reach) ∧
      ((∀ payload, op ≠ .write payload) → (s.deliveriesSince s').length ≤ 1)) ∧
    (∀ payload, op = .write payload → ¬ch.Admits payload →
      (∃ f, result = .error f) ∧ ch' = ch ∧ s' = s) ∧
    (∀ size, op = .setChunkSize size → s' = s) ∧
    (op = .leave true → result = .ok .done ∧ ch' = ch ∧ s' = s) := by
  have sound := reachable.sound
  refine ⟨?failed, ?refused, ?chunkSize, ?left⟩
  case failed =>
    rintro f rfl
    refine ⟨fun idle => eq_of_perform_error_of_no_bytes idle h,
      fun full => sound.eq_of_perform_error_of_full full h, sound.perform_error_cases h,
      fun noWrite => ?_⟩
    obtain none | ⟨final, one⟩ := sends_of_perform_error noWrite h
    · rw [none.deliveriesSince]
      exact Nat.zero_le 1
    · rw [one.deliveriesSince]
      exact Nat.le_refl 1
  case refused =>
    rintro payload rfl refused
    exact perform_of_not_admits refused h
  case chunkSize =>
    rintro size rfl
    rcases perform_cases h with ⟨_, _, _, _⟩ | ⟨_, _, _, _⟩ | ⟨_, other | other, _⟩ |
      ⟨-, -, -, same⟩ | ⟨-, -, same⟩
    · contradiction
    · contradiction
    · contradiction
    · contradiction
    · exact same
    · exact same
  case left =>
    rintro rfl
    simp only [perform, leave, if_true, Prod.mk.injEq] at h
    obtain ⟨rfl, rfl, rfl⟩ := h
    exact ⟨rfl, rfl, rfl⟩

end Machine

/-- A channel is made with a full chunk. A write, which is to send it first, is rejected. -/
theorem intact_of_error_overdue :
    ∃ (data : ByteArray) (s : Service) (ch ch' : Channel) (s' : Service), data.size = 262144 ∧
      s = ({ handles := [0] } : Service).setEndpoint "east" { uploadScript := [.fail .closed] } ∧
      make ⟨0, none, "east"⟩ ⟨"b", "o", none, none⟩ "u" (.int 262144) 5 (some data) true = .ok ch ∧
      ch.perform (.write (.bytes ⟨#[7]⟩)) s = (.error .closed, ch', s') ∧
      s.deliveriesSince s' = [ch.delivery false false] ∧ ch' = ch := by
  -- The bytes themselves do not matter, and so they are never computed.
  obtain ⟨data, data_size⟩ : ∃ data : ByteArray, data.size = 262144 :=
    ⟨ChunkBuffer.zeros 262144, ChunkBuffer.size_zeros 262144⟩
  obtain ⟨size, valid, size_eq⟩ : ∃ size : ChunkSize,
      ChunkSize.validate (.int 262144) = .ok size ∧ size.bytes = 262144 :=
    ⟨⟨262144, by decide, by decide⟩, rfl, rfl⟩
  have available : Shortage.ofSize? size.bytes = none := by
    rw [size_eq]
    decide +kernel
  obtain ⟨buffer, initial⟩ : ∃ buffer, initialBuffer size (some data) true = .ok buffer :=
    initialBuffer_of_room (by rw [Option.getD_some, data_size, size_eq]) (.inl available)
  obtain ⟨ch, made, options, isOpen, full⟩ : ∃ ch, make ⟨0, none, "east"⟩ ⟨"b", "o", none, none⟩
      "u" (.int 262144) 5 (some data) true = .ok ch ∧ ch.options = ⟨0, none, "east"⟩ ∧
      ch.isOpen = true ∧ ch.buffer.limit = ch.chunkSize.bytes := by
    refine ⟨⟨_, ⟨"b", "o", none, none⟩, "u", size, 5, buffer, true⟩, by simp [make, valid, initial],
      rfl, rfl, ?_⟩
    obtain ⟨fits, -, contents⟩ := initialBuffer_eq_ok initial
    rw [← fits.size_contents, contents, if_pos rfl, Option.getD_some, data_size, size_eq]
  obtain ⟨s, s_eq⟩ : ∃ s, s = ({ handles := [0] } : Service).setEndpoint "east"
      { uploadScript := [.fail .closed] } := ⟨_, rfl⟩
  obtain ⟨s', failed⟩ : ∃ s', ch.transmit false s = (.error .closed, s') := by
    rw [s_eq, transmit, options]
    exact ⟨_, rfl⟩
  have performed : ch.perform (.write (.bytes ⟨#[7]⟩)) s = (.error .closed, ch, s') := by
    rw [perform, write_bytes isOpen, fill, if_pos (Nat.le_of_eq full.symm), failed]
    rfl
  have known : s.HasHandle ch.options := by
    rw [s_eq, options]
    rfl
  have sends : s.Sends [ch.delivery false false] s' := by
    obtain ⟨missing, -⟩ | ⟨-, sends⟩ := transmit_eq_error failed
    · exact absurd known missing
    · exact sends
  have reachable := Reachable.of_make ⟨by decide, by decide⟩ made
  refine ⟨data, s, ch, ch, s', data_size, s_eq, made, performed, sends.deliveriesSince, ?_⟩
  refine ((intact_of_error reachable performed).1 .closed rfl).2.1 full fun d mem => ?_
  rw [sends.deliveriesSince, List.mem_singleton] at mem
  rw [mem, delivery]

end ResumableUpload.Channel
