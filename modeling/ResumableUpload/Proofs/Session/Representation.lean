import ResumableUpload.Proofs.Channel.Chunking
import ResumableUpload.Proofs.Channel.Interruption
import ResumableUpload.Proofs.Session.Stream

/-!
# How channels are represented

A channel has a chunk size and a position that make sense, its buffer has room for exactly one
chunk, and a closed channel has no buffer. An open channel may hold a full chunk between two
operations, but only one that it has got from the beginning, or one that it could not send. So what
a write sends are full chunks, and what closing sends is the final chunk.

## Main definitions

* `Channel.Represented` — the representation invariant.
* `Operation.Sizes`, `Passage.Sized` — how large the chunks of an operation are, and which of them
  are final.

## Main results

* `Channel.Sound.actions_full` — where a full buffer comes from.
* `Channel.actions_represented` — what holds after any row of actions.
-/

namespace ResumableUpload

namespace Channel

/-- The representation invariant of channels. -/
structure Represented (ch : Channel) : Prop where
  /-- A chunk holds at least one byte. -/
  chunkSize_pos : 0 < ch.chunkSize.bytes
  /-- The chunk size is a multiple of 256 KiB. -/
  dvd_chunkSize : 262144 ∣ ch.chunkSize.bytes
  /-- At most one chunk is buffered. -/
  limit_le : ch.buffer.limit ≤ ch.chunkSize.bytes
  /-- Storage has room for exactly one chunk. -/
  size_storage : ∀ bytes, ch.buffer.storage = some bytes → bytes.size = ch.chunkSize.bytes
  /-- Without storage nothing is buffered. -/
  limit_of_no_storage : ch.buffer.storage = none → ch.buffer.limit = 0
  /-- A closed channel has no storage and nothing buffered. -/
  released_of_closed : ch.isOpen = false → ch.buffer.storage = none ∧ ch.buffer.limit = 0

end Channel

/-- What an operation may send: a write full chunks that do not end the object; a closing, be it at
the end of a scope, one that ends it and is no longer than a full one; a flush anything. -/
def Operation.Sizes (size : Nat) (t : Transmission) : Operation → Prop
  | .write _ => t.length = size ∧ t.last = false
  | .close => t.last = true ∧ t.length ≤ size
  | .leave _ => t.last = true ∧ t.length ≤ size
  | .flush _ => True
  | .setChunkSize _ => False

/-- The chunks that a stage sends are of the kind of its operation. -/
def Passage.Sized (p : Passage) : Prop :=
  match p.stage with
  | .act (.operate op) =>
    ∀ d ∈ p.start.deliveriesSince p.finish, op.Sizes p.before.chunkSize.bytes d.chunk
  | _ => True

namespace Channel

variable {ch ch' : Channel} {s s' : Service}

section Machine

variable [Memory]

/-- Sound channels satisfy the representation invariant. -/
theorem Sound.represented (sound : ch.Sound) : ch.Represented where
  chunkSize_pos := ch.chunkSize.pos
  dvd_chunkSize := Nat.dvd_of_mod_eq_zero ch.chunkSize.aligned
  limit_le := sound.limit_le
  size_storage := by
    intro bytes given
    rcases ch with ⟨_, _, _, size, _, buffer, _⟩
    have fits : buffer.Fits size.bytes := sound.fits
    cases fits with
    | released => contradiction
    | allocated size_eq _ _ =>
      obtain rfl := Option.some.inj given
      exact size_eq
  limit_of_no_storage := by
    intro none
    rcases ch with ⟨_, _, _, size, _, buffer, _⟩
    have fits : buffer.Fits size.bytes := sound.fits
    cases fits with
    | released => rfl
    | allocated _ _ _ => contradiction
  released_of_closed := by
    intro closed
    rw [sound.released_of_closed closed]
    exact ⟨rfl, rfl⟩

/-! ### Where a full buffer comes from -/

/-- After a row of actions the buffer is full only if nothing was done at all, or if some action has
failed to send the very chunk that is buffered, and nothing was done after it. -/
theorem Sound.actions_full (sound : ch.Sound) {row : List Action} {passages : List Passage}
    (run : ch.actions row s = (passages, ch', s'))
    (full : ch'.buffer.limit = ch'.chunkSize.bytes) :
    (ch' = ch ∧ s' = s) ∨
      ∃ before p after final f t, passages = before ++ p :: after ∧
        p.answer = .error (.failure f) ∧ ch'.transmit final t = (.error f, p.finish) ∧
        s' = p.finish := by
  -- The last action that did anything at all is the one to be found.
  induction row generalizing ch s passages with
  | nil =>
    simp only [actions, List.map_nil, journey, Prod.mk.injEq] at run
    obtain ⟨-, rfl, rfl⟩ := run
    exact .inl ⟨rfl, rfl⟩
  | cons action row ih =>
    obtain ⟨answer, ch₁, s₁, later, acted, more, rfl⟩ := journey_cons run
    obtain ⟨-, -, -, sound₁⟩ := sound.flow_pass acted
    rcases ih sound₁ more with ⟨rfl, rfl⟩ | ⟨before, p, after, final, f, t, rfl, found⟩
    · rcases sound.act_full acted full with idle | ⟨final, f, t, failed, rfl⟩
      · exact .inl idle
      · exact .inr ⟨[], _, later, final, f, t, rfl, rfl, failed, rfl⟩
    · exact .inr ⟨_ :: before, p, after, final, f, t, rfl, found⟩

/-! ### The chunks of single operations -/

/-- The chunks of a write are full and do not end the object. -/
theorem Sound.sends_write (sound : ch.Sound) {payload : Payload} {result : Except Failure Nat}
    (h : ch.write payload s = (result, ch', s')) :
    ∃ sent, s.Sends sent s' ∧
      ∀ d ∈ sent, d.chunk.length = ch.chunkSize.bytes ∧ d.chunk.last = false := by
  obtain ⟨data, rfl, isOpen, filled⟩ | ⟨-, rfl, rfl⟩ := write_cases h
  · obtain ⟨next, sent, sends, spec⟩ := fill_spec ch data 0 s sound isOpen (Nat.zero_le _) filled
    refine ⟨sent, sends, fun d mem => ?_⟩
    obtain ⟨-, -, length, last⟩ := spec.full d mem
    exact ⟨length, last⟩
  · exact ⟨[], .refl s', by simp⟩

/-- The chunk of a closing ends the object and is no longer than a full one. -/
theorem Sound.sends_close (sound : ch.Sound) {result : Except Failure Unit}
    (h : ch.close s = (result, ch', s')) :
    ∃ sent, s.Sends sent s' ∧
      ∀ d ∈ sent, d.chunk.last = true ∧ d.chunk.length ≤ ch.chunkSize.bytes := by
  have whole : ∀ accepted, ∀ d ∈ [ch.delivery true accepted],
      d.chunk.last = true ∧ d.chunk.length ≤ ch.chunkSize.bytes := by
    intro accepted d mem
    obtain rfl := List.mem_singleton.mp mem
    exact ⟨rfl, sound.limit_le⟩
  obtain ⟨-, -, -, rfl⟩ | ⟨-, -, -, sends⟩ | ⟨-, -, -, sends | sends⟩ := close_cases h
  · exact ⟨[], .refl s', by simp⟩
  · exact ⟨_, sends, whole true⟩
  · exact ⟨[], sends, by simp⟩
  · exact ⟨_, sends, whole false⟩

/-- The chunks of an operation are of its kind. -/
theorem Sound.sized_perform (sound : ch.Sound) {op : Operation} {result : Except Failure Reply}
    (h : ch.perform op s = (result, ch', s')) :
    ∃ sent, s.Sends sent s' ∧ ∀ d ∈ sent, op.Sizes ch.chunkSize.bytes d.chunk := by
  rcases perform_cases h with ⟨payload, r, rfl, wrote, -⟩ | ⟨final, r, rfl, flushed, -⟩ |
    ⟨r, rfl | rfl, closed, -⟩ | ⟨size, rfl, -, rfl⟩ | ⟨⟨size, rfl⟩ | rfl, rfl, rfl⟩
  · exact sound.sends_write wrote
  · obtain ⟨sent, sends, -⟩ := sound.flow_flush flushed
    exact ⟨sent, sends, fun _ _ => trivial⟩
  · exact sound.sends_close closed
  · exact sound.sends_close closed
  · exact ⟨[], .refl s', by simp⟩
  · exact ⟨[], .refl s', by simp⟩
  · exact ⟨[], .refl s', by simp⟩

/-- The chunks that a stage of a sound channel sends are of its kind. -/
theorem Sound.sized_pass (p : Passage) (sound : p.before.Sound)
    (h : p.before.pass p.stage p.start = (p.answer, p.after, p.finish)) : p.Sized := by
  obtain ⟨stage, before, start, answer, after, finish⟩ := p
  cases stage with
  | act action =>
    rcases act_cases h with ⟨op, result, rfl, performed, -⟩ | ⟨rfl, -⟩
    · obtain ⟨sent, sends, sized⟩ := sound.sized_perform performed
      intro d mem
      rw [sends.deliveriesSince] at mem
      exact sized d mem
    · exact trivial
  | handOver reader => exact trivial

/-! ### Rows of actions -/

/-- What holds after any row of actions, wherever the channel comes from. The representation
invariant holds, and the position does not fall behind the one that the channel was made with, which
is not negative. A full chunk is buffered only if the channel was made with it and nothing was done
since, or if the last thing done was a failed attempt to send it. The chunks of writes are full and
do not end the object; those of closing end it and are no longer than a full one. -/
theorem actions_represented {origin : Origin} {row : List Action} {passages : List Passage}
    {s₀ s₁ s₂ : Service} (created : origin.create s₀ = (.ok ch, s₁))
    (run : ch.actions row s₁ = (passages, ch', s₂)) :
    ch'.Represented ∧ 0 ≤ origin.position ∧ origin.position ≤ ch'.position ∧
      (ch'.buffer.limit = ch'.chunkSize.bytes →
        (origin.buffered.size = ch'.chunkSize.bytes ∧ ch' = ch ∧ s₂ = s₁) ∨
          ∃ before p after final f t, passages = before ++ p :: after ∧
            p.answer = .error (.failure f) ∧ ch'.transmit final t = (.error f, p.finish) ∧
            s₂ = p.finish) ∧
      ∀ p ∈ passages, p.Sized := by
  obtain ⟨sound, position, buffered⟩ := origin.create_spec created
  obtain ⟨sent, -, flow, sound'⟩ := sound.flow_journey run
  refine ⟨sound'.represented, ?_, ?_, fun full => ?_, sound.forall_journey Sound.sized_pass run⟩
  · rw [← position]
    exact Int.natCast_nonneg _
  · rw [← position, flow.position]
    omega
  · refine (sound.actions_full run full).imp_left ?_
    rintro ⟨rfl, rfl⟩
    refine ⟨?_, rfl, rfl⟩
    rw [← buffered, sound.size_contents, full]

end Machine

/-- A channel is made with a full chunk; a write, which is to send it first, is rejected once. -/
theorem actions_represented_rejected :
    ∃ (data : ByteArray) (origin : Origin) (ch ch' : Channel) (passages : List Passage)
      (s₁ s₂ : Service),
      data.size = 262144 ∧
      origin = .made ⟨0, none, "east"⟩ ⟨"b", "o", none, none⟩ "u" (.int 262144) 5 (some data) true ∧
      origin.create (({} : Service).setEndpoint "east" { uploadScript := [.fail .closed] }) =
        (.ok ch, s₁) ∧
      ch.actions [.operate (.write (.bytes ⟨#[7]⟩)), .capture] s₁ = (passages, ch', s₂) ∧
      ch'.Represented ∧ 0 ≤ origin.position ∧ origin.position ≤ ch'.position ∧
      (ch'.buffer.limit = ch'.chunkSize.bytes →
        (origin.buffered.size = ch'.chunkSize.bytes ∧ ch' = ch ∧ s₂ = s₁) ∨
          ∃ before p after final f t, passages = before ++ p :: after ∧
            p.answer = .error (.failure f) ∧ ch'.transmit final t = (.error f, p.finish) ∧
            s₂ = p.finish) ∧
      ∀ p ∈ passages, p.Sized := by
  -- The bytes themselves do not matter, and so they are never computed.
  obtain ⟨data, data_size⟩ : ∃ data : ByteArray, data.size = 262144 :=
    ⟨ChunkBuffer.zeros 262144, ChunkBuffer.size_zeros 262144⟩
  obtain ⟨size, valid, size_eq⟩ : ∃ size : ChunkSize,
      ChunkSize.validate (.int 262144) = .ok size ∧ size.bytes = 262144 :=
    ⟨⟨262144, by decide, by decide⟩, rfl, rfl⟩
  have available : Shortage.ofSize? size.bytes = none := by
    rw [size_eq]
    decide +kernel
  obtain ⟨buffer, initial⟩ : ∃ buffer, initialBuffer size (some data) true = .ok buffer :=
    initialBuffer_of_room (by rw [Option.getD_some, data_size, size_eq]) (.inl available)
  obtain ⟨ch, s₁, created⟩ : ∃ ch s₁, (Origin.made ⟨0, none, "east"⟩ ⟨"b", "o", none, none⟩ "u"
      (.int 262144) 5 (some data) true).create
        (({} : Service).setEndpoint "east" { uploadScript := [.fail .closed] }) = (.ok ch, s₁) := by
    simp [Origin.create, make, valid, initial, Except.mapError]
  obtain ⟨passages, ch', s₂, run⟩ : ∃ passages ch' s₂,
      ch.actions [.operate (.write (.bytes ⟨#[7]⟩)), .capture] s₁ = (passages, ch', s₂) :=
    ⟨_, _, _, rfl⟩
  exact ⟨data, _, ch, ch', passages, s₁, s₂, data_size, rfl, created, run,
    actions_represented created run⟩

end Channel

end ResumableUpload
