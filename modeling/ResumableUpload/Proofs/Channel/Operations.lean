import ResumableUpload.Proofs.Channel.Flow

/-!
# What operations on a channel do

All that one operation can do, said once for each of them: which chunks it sends, which channel it
leaves, and how it ends. Together they say that an operation keeps a channel sound and that bytes
flow through it in order.

## Main definitions

* `Operation.consumed` — the bytes that an operation takes in.

## Main results

* `Channel.flush_cases`, `Channel.close_cases`, `Channel.write_cases` — the operations that send.
* `Channel.perform_cases`, `Channel.Sound.flow_perform` — any operation.
* `Channel.act_cases` — any action.
-/

namespace ResumableUpload

namespace Channel

variable {ch ch' : Channel} {s s' : Service}

/-! ### Single operations -/

/-- What a flush does: the buffered bytes go out, or everything stays. -/
theorem flush_cases {final : Bool} {result : Except Failure Unit}
    (h : ch.flush final s = (result, ch', s')) :
    (result = .ok () ∧ ch' = ch.advance ∧ s.Sends [ch.delivery final true] s') ∨
      (∃ f, result = .error f) ∧ ch' = ch ∧
        (s.Sends [] s' ∨ s.Sends [ch.delivery final false] s') := by
  rw [flush] at h
  split at h
  next f s₁ eq =>
    simp only [Prod.mk.injEq] at h
    obtain ⟨rfl, rfl, rfl⟩ := h
    exact .inr ⟨⟨f, rfl⟩, rfl, sends_of_transmit_error eq⟩
  next s₁ eq =>
    simp only [Prod.mk.injEq] at h
    obtain ⟨rfl, rfl, rfl⟩ := h
    exact .inl ⟨rfl, rfl, sends_of_transmit_ok eq⟩

/-- What closing does: nothing to a closed channel; the buffered bytes of an open one go out and it
is shut, or everything stays. -/
theorem close_cases {result : Except Failure Unit} (h : ch.close s = (result, ch', s')) :
    (ch.isOpen = false ∧ result = .ok () ∧ ch' = ch ∧ s' = s) ∨
      (ch.isOpen = true ∧ result = .ok () ∧ ch' = ch.advance.shut ∧
        s.Sends [ch.delivery true true] s') ∨
      (ch.isOpen = true ∧ (∃ f, result = .error f) ∧ ch' = ch ∧
        (s.Sends [] s' ∨ s.Sends [ch.delivery true false] s')) := by
  rw [close] at h
  split at h
  next closed =>
    simp only [Prod.mk.injEq] at h
    obtain ⟨rfl, rfl, rfl⟩ := h
    exact .inl ⟨by simpa using closed, rfl, rfl, rfl⟩
  next isOpen =>
    have isOpen : ch.isOpen = true := by simpa using isOpen
    split at h
    next f ch₁ s₁ eq =>
      simp only [Prod.mk.injEq] at h
      obtain ⟨rfl, rfl, rfl⟩ := h
      obtain ⟨ok, -⟩ | ⟨failed, same, sends⟩ := flush_cases eq
      · simp at ok
      · exact .inr (.inr ⟨isOpen, failed, same, sends⟩)
    next ch₁ s₁ eq =>
      simp only [Prod.mk.injEq] at h
      obtain ⟨rfl, rfl, rfl⟩ := h
      obtain ⟨-, rfl, sends⟩ | ⟨⟨f, failed⟩, -⟩ := flush_cases eq
      · exact .inr (.inl ⟨isOpen, rfl, rfl, sends.noteAll _⟩)
      · simp at failed

variable [Memory]

/-- Bytes that are offered to an open channel are written. -/
theorem write_bytes (isOpen : ch.isOpen = true) (data : ByteArray) (s : Service) :
    ch.write (.bytes data) s = ch.fill data 0 s := by
  rw [write, isOpen]
  rfl

/-- What writing does: bytes are written to an open channel; anything else fails at once. -/
theorem write_cases {payload : Payload} {result : Except Failure Nat}
    (h : ch.write payload s = (result, ch', s')) :
    (∃ data, payload = .bytes data ∧ ch.isOpen = true ∧
        ch.fill data 0 s = (result, ch', s')) ∨
      ((∃ f, result = .error f) ∧ ch' = ch ∧ s' = s) := by
  unfold write at h
  split at h
  · simp only [Prod.mk.injEq] at h
    obtain ⟨rfl, rfl, rfl⟩ := h
    exact .inr ⟨⟨_, rfl⟩, rfl, rfl⟩
  next isOpen =>
    cases payload with
    | bytes data => exact .inl ⟨data, rfl, by simpa using isOpen, h⟩
    | noBytes typeName =>
      simp only [Prod.mk.injEq] at h
      obtain ⟨rfl, rfl, rfl⟩ := h
      exact .inr ⟨⟨_, rfl⟩, rfl, rfl⟩
    | scattered =>
      simp only [Prod.mk.injEq] at h
      obtain ⟨rfl, rfl, rfl⟩ := h
      exact .inr ⟨⟨_, rfl⟩, rfl, rfl⟩

/-- Setting the chunk size of a sound channel leaves a sound channel with the same bytes. -/
theorem Sound.flow_setChunkSize (sound : ch.Sound) {size : Value}
    (h : ch.setChunkSize size = .ok ch') : ch.Flow .empty [] ch' ∧ ch'.Sound := by
  obtain ⟨isOpen, -, untouched, chunkSize, -, rfl⟩ := setChunkSize_eq_ok h
  have contents : ch.buffer.contents = .empty := by
    rw [← ByteArray.size_eq_zero_iff, sound.size_contents, untouched]
  exact ⟨.of_same ⟨rfl, rfl⟩ rfl (by rw [contents, ChunkBuffer.contents_released]), .released,
    fun _ => rfl⟩

/-! ### Any operation -/

end Channel

/-- The bytes that an operation takes in: all that are written if it succeeds, or else as many of
them as the channel's reach grows by. -/
def Operation.consumed (op : Operation) (before : Channel) (succeeds : Bool) (after : Channel) :
    ByteArray :=
  match op with
  | .write (.bytes data) =>
    if succeeds then data else data.extract 0 (after.reach - before.reach)
  | _ => .empty

namespace Channel

variable {ch ch' : Channel} {s s' : Service}

/-- Whether a result is a success does not depend on what it is turned into. -/
theorem isOk_map {ε α β : Type} (f : α → β) (r : Except ε α) : (r.map f).isOk = r.isOk := by
  cases r <;> rfl

variable [Memory]

/-- A flush keeps a channel sound, and bytes flow out in order. -/
theorem Sound.flow_flush (sound : ch.Sound) {final : Bool} {result : Except Failure Unit}
    (h : ch.flush final s = (result, ch', s')) :
    ∃ sent, s.Sends sent s' ∧ ch.Flow .empty sent ch' ∧ ch'.Sound := by
  obtain ⟨-, rfl, sends⟩ | ⟨-, rfl, sends | sends⟩ := flush_cases h
  · exact ⟨_, sends, sound.flow_advance final, sound.advance⟩
  · exact ⟨_, sends, .refl ch', sound⟩
  · exact ⟨_, sends, sound.flow_rejected final, sound⟩

/-- Closing keeps a channel sound, and bytes flow out in order. -/
theorem Sound.flow_close (sound : ch.Sound) {result : Except Failure Unit}
    (h : ch.close s = (result, ch', s')) :
    ∃ sent, s.Sends sent s' ∧ ch.Flow .empty sent ch' ∧ ch'.Sound := by
  obtain ⟨-, -, rfl, rfl⟩ | ⟨-, -, rfl, sends⟩ | ⟨-, -, rfl, sends | sends⟩ := close_cases h
  · exact ⟨_, .refl s', .refl ch', sound⟩
  · have shut : ch.advance.Flow .empty [] ch.advance.shut :=
      .of_same ⟨rfl, rfl⟩ rfl (by simp [shut])
    have flow := (sound.flow_advance true).trans_idle shut
    rw [List.append_nil] at flow
    exact ⟨_, sends, flow, sound_shut _⟩
  · exact ⟨_, sends, .refl ch', sound⟩
  · exact ⟨_, sends, sound.flow_rejected true, sound⟩

/-- Writing keeps a channel sound, and bytes flow in and out in order. -/
theorem Sound.flow_write (sound : ch.Sound) {payload : Payload} {result : Except Failure Nat}
    (h : ch.write payload s = (result, ch', s')) :
    ∃ sent, s.Sends sent s' ∧
      ch.Flow (Operation.consumed (.write payload) ch result.isOk ch') sent ch' ∧ ch'.Sound := by
  obtain ⟨data, rfl, isOpen, filled⟩ | ⟨⟨f, rfl⟩, rfl, rfl⟩ := write_cases h
  · obtain ⟨next, sent, sends, filled⟩ := fill_spec ch data 0 s sound isOpen (Nat.zero_le _) filled
    refine ⟨sent, sends, ?_, filled.sound⟩
    cases result with
    | ok count =>
      obtain ⟨-, next_eq, -⟩ := filled.complete count rfl
      have flow := filled.flow
      rwa [next_eq, ByteArray.extract_zero_size] at flow
    | error f =>
      have grown : ch'.reach - ch.reach = next := by
        rw [filled.reach_eq sound]
        omega
      simp only [Operation.consumed, Except.isOk, Except.toBool, Bool.false_eq_true, if_false,
        grown]
      exact filled.flow
  · refine ⟨[], .refl s', ?_, sound⟩
    have nothing : Operation.consumed (.write payload) ch' false ch' = .empty := by
      cases payload with
      | bytes data => simp [Operation.consumed, ByteArray.extract_same]
      | noBytes typeName => rfl
      | scattered => rfl
    simp only [Except.isOk, Except.toBool, nothing]
    exact .refl ch'

/-- What an operation does: it writes, flushes, closes or sets the chunk size; or it fails to set
the chunk size or leaves a scope that failed, and then everything stays. -/
theorem perform_cases {op : Operation} {result : Except Failure Reply}
    (h : ch.perform op s = (result, ch', s')) :
    (∃ payload r, op = .write payload ∧ ch.write payload s = (r, ch', s') ∧
        result = r.map .wrote) ∨
      (∃ final r, op = .flush final ∧ ch.flush final s = (r, ch', s') ∧
        result = r.map fun _ => .done) ∨
      (∃ r, (op = .close ∨ op = .leave false) ∧ ch.close s = (r, ch', s') ∧
        result = r.map fun _ => .done) ∨
      (∃ size, op = .setChunkSize size ∧ ch.setChunkSize size = .ok ch' ∧ s' = s) ∨
      ((∃ size, op = .setChunkSize size) ∨ op = .leave true) ∧ ch' = ch ∧ s' = s := by
  cases op with
  | write payload =>
    simp only [perform, Prod.mk.injEq] at h
    obtain ⟨rfl, rfl, rfl⟩ := h
    exact .inl ⟨payload, _, rfl, rfl, rfl⟩
  | flush final =>
    simp only [perform, Prod.mk.injEq] at h
    obtain ⟨rfl, rfl, rfl⟩ := h
    exact .inr (.inl ⟨final, _, rfl, rfl, rfl⟩)
  | close =>
    simp only [perform, Prod.mk.injEq] at h
    obtain ⟨rfl, rfl, rfl⟩ := h
    exact .inr (.inr (.inl ⟨_, .inl rfl, rfl, rfl⟩))
  | setChunkSize size =>
    simp only [perform] at h
    split at h
    · simp only [Prod.mk.injEq] at h
      obtain ⟨-, rfl, rfl⟩ := h
      exact .inr (.inr (.inr (.inr ⟨.inl ⟨size, rfl⟩, rfl, rfl⟩)))
    next ch₁ eq =>
      simp only [Prod.mk.injEq] at h
      obtain ⟨-, rfl, rfl⟩ := h
      exact .inr (.inr (.inr (.inl ⟨size, rfl, eq, rfl⟩)))
  | leave failed =>
    cases failed with
    | true =>
      simp only [perform, leave, if_true, Prod.mk.injEq] at h
      obtain ⟨-, rfl, rfl⟩ := h
      exact .inr (.inr (.inr (.inr ⟨.inr rfl, rfl, rfl⟩)))
    | false =>
      simp only [perform, leave, Bool.false_eq_true, if_false, Prod.mk.injEq] at h
      obtain ⟨rfl, rfl, rfl⟩ := h
      exact .inr (.inr (.inl ⟨_, .inr rfl, rfl, rfl⟩))

/-- An operation keeps a channel sound, and bytes flow in and out in order. -/
theorem Sound.flow_perform (sound : ch.Sound) {op : Operation} {result : Except Failure Reply}
    (h : ch.perform op s = (result, ch', s')) :
    ∃ sent, s.Sends sent s' ∧ ch.Flow (op.consumed ch result.isOk ch') sent ch' ∧ ch'.Sound := by
  rcases perform_cases h with ⟨payload, r, rfl, wrote, rfl⟩ | ⟨final, r, rfl, flushed, rfl⟩ |
    ⟨r, rfl | rfl, closed, rfl⟩ | ⟨size, rfl, set, rfl⟩ | ⟨⟨size, rfl⟩ | rfl, rfl, rfl⟩
  · rw [isOk_map]
    exact sound.flow_write wrote
  · exact sound.flow_flush flushed
  · exact sound.flow_close closed
  · exact sound.flow_close closed
  · obtain ⟨flow, sound'⟩ := sound.flow_setChunkSize set
    exact ⟨[], .refl s', flow, sound'⟩
  · exact ⟨[], .refl s', .refl ch', sound⟩
  · exact ⟨[], .refl s', .refl ch', sound⟩

/-! ### Actions -/

/-- What an action does: an operation, which decides whether it succeeds, or nothing to the channel
and the service. -/
theorem act_cases {action : Action} {answer : Except Problem Answer}
    (h : ch.act action s = (answer, ch', s')) :
    (∃ op result, action = .operate op ∧ ch.perform op s = (result, ch', s') ∧
        answer.isOk = result.isOk) ∨
      action = .capture ∧ ch' = ch ∧ s' = s := by
  cases action with
  | operate op =>
    simp only [act] at h
    split at h
    next reply ch₁ s₁ performed =>
      simp only [Prod.mk.injEq] at h
      obtain ⟨rfl, rfl, rfl⟩ := h
      exact .inl ⟨op, _, rfl, performed, rfl⟩
    next f ch₁ s₁ performed =>
      simp only [Prod.mk.injEq] at h
      obtain ⟨rfl, rfl, rfl⟩ := h
      exact .inl ⟨op, _, rfl, performed, rfl⟩
  | capture =>
    simp only [act] at h
    split at h
    all_goals
      simp only [Prod.mk.injEq] at h
      obtain ⟨-, rfl, rfl⟩ := h
      exact .inr ⟨rfl, rfl, rfl⟩

end Channel

end ResumableUpload
