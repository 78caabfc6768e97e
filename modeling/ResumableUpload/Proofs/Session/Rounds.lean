import ResumableUpload.Channel.Rounds
import ResumableUpload.Proofs.Channel.Chunking
import ResumableUpload.Proofs.Session.Reachable

/-!
# The rounds of a write come to an end

Between two rounds the buffer is not full: before the first one a full buffer is sent, and at the
end of each round, too. So there is place for at least one byte, and each round copies something
unless there is no storage. How many rounds there are follows from what a round leaves: an empty
buffer, or nothing to be copied.

## Main definitions

* `Copying.Ready` — what holds at the beginning of each round.

## Main results

* `Copying.Ready.round` — what a round does and what it leaves.
* `Copying.Ready.exists_rounds`, `Copying.Rounds.bound` — there is a last round, and a bound.
* `Copying.fill_of_rounds` — the rounds are those of a write.
* `Channel.write_progresses` — all of this for a write.
-/

namespace ResumableUpload.Channel

namespace Copying

variable {c c' : Copying} {data : ByteArray} {failure : Option Failure} {heads : List Copying}

variable [Memory]

/-- What holds at the beginning of each round: the buffer of an open channel is not full. -/
structure Ready (data : ByteArray) (c : Copying) : Prop where
  /-- The channel is sound. -/
  sound : c.channel.Sound
  /-- The channel is open. -/
  isOpen : c.channel.isOpen = true
  /-- The buffer is not full. -/
  small : c.channel.buffer.limit < c.channel.chunkSize.bytes
  /-- No more bytes are copied than there are. -/
  offset_le : c.offset ≤ data.size

/-! ### Sending a full buffer -/

omit [Memory] in
/-- Sending a full buffer copies nothing and keeps the settings. If it does not fail, the buffer is
not full afterwards: it was not, and nothing happened, or it is empty. -/
theorem sendFull_cases (sent : c.sendFull = (failure, c')) :
    c'.offset = c.offset ∧ c.channel.Keeps c'.channel ∧
      ((failure = none ∧ c.channel.buffer.limit ≠ c.channel.chunkSize.bytes ∧ c' = c) ∨
        (failure = none ∧ c.channel.buffer.limit = c.channel.chunkSize.bytes ∧
          c'.channel = c.channel.advance) ∨
        (∃ f, failure = some f) ∧ c.channel.buffer.limit = c.channel.chunkSize.bytes ∧
          c'.channel = c.channel) := by
  rw [sendFull] at sent
  split at sent
  next full =>
    split at sent
    next f ch s eq =>
      obtain ⟨rfl, rfl⟩ := Prod.mk.inj sent
      obtain ⟨ok, -⟩ | ⟨-, rfl, -⟩ := flush_cases eq
      · contradiction
      · exact ⟨rfl, .refl _, .inr (.inr ⟨⟨f, rfl⟩, full, rfl⟩)⟩
    next ch s eq =>
      obtain ⟨rfl, rfl⟩ := Prod.mk.inj sent
      obtain ⟨-, rfl, -⟩ | ⟨⟨f, failed⟩, -⟩ := flush_cases eq
      · exact ⟨rfl, keeps_advance _, .inr (.inl ⟨rfl, full, rfl⟩)⟩
      · contradiction
  next small =>
    obtain ⟨rfl, rfl⟩ := Prod.mk.inj sent
    exact ⟨rfl, .refl _, .inl ⟨rfl, small, rfl⟩⟩

/-- When a full buffer is sent without failure, a round may begin. -/
theorem ready_of_sendFull (sound : c.channel.Sound) (isOpen : c.channel.isOpen = true)
    (offset_le : c.offset ≤ data.size) (sent : c.sendFull = (none, c')) : c'.Ready data := by
  obtain ⟨offset, keeps, ⟨-, small, rfl⟩ | ⟨-, -, advanced⟩ | ⟨⟨f, failed⟩, -⟩⟩ :=
    sendFull_cases sent
  · exact ⟨sound, isOpen, Nat.lt_of_le_of_ne sound.limit_le small, offset_le⟩
  · refine ⟨advanced ▸ sound.advance, keeps.isOpen.trans isOpen, ?_, offset ▸ offset_le⟩
    rw [advanced, limit_advance]
    exact c.channel.advance.chunkSize.pos
  · contradiction

/-! ### One round -/

/-- What a round leaves that does not fail: a state in which another one may begin, and either all
bytes are copied, or the buffer is empty and one chunk less is buffered or still to be copied. -/
structure Left (data : ByteArray) (c c' : Copying) : Prop where
  /-- Another round may begin. -/
  ready : c'.Ready data
  /-- The settings are the same. -/
  keeps : c.channel.Keeps c'.channel
  /-- Bytes are copied. -/
  offset_lt : c.offset < c'.offset
  /-- How many bytes are left. -/
  rest : c'.offset = data.size ∨ c'.channel.buffer.limit = 0 ∧
    c.channel.buffer.limit + (data.size - c.offset) =
      c.channel.chunkSize.bytes + (data.size - c'.offset)

/-- Where a round begins there is place for a byte. -/
theorem Ready.room_pos (ready : c.Ready data) (more : c.offset < data.size) :
    0 < c.channel.room data c.offset := by
  have small := ready.small
  rw [room]
  omega

/-- What is copied fits into the storage for a chunk. -/
theorem Ready.exists_storage (ready : c.Ready data) {buffer : ChunkBuffer}
    (allocated : c.channel.buffer.allocate c.channel.chunkSize.bytes = .ok buffer) :
    ∃ storage, buffer.storage = some storage ∧ storage.size = c.channel.chunkSize.bytes ∧
      buffer.limit = c.channel.buffer.limit ∧
      c.channel.buffer.limit + c.channel.room data c.offset ≤ storage.size := by
  obtain ⟨fits, stored, limit, -⟩ := ready.sound.fits.of_allocate allocated
  have room_le : c.channel.room data c.offset ≤
      c.channel.chunkSize.bytes - c.channel.buffer.limit := Nat.min_le_left _ _
  have small := ready.small
  cases fits with
  | released => contradiction
  | @allocated storage _ size_eq _ _ => exact ⟨storage, rfl, size_eq, limit, by omega⟩

/-- What is left once bytes were copied and a full buffer was sent. -/
theorem Ready.left_of_copy (ready : c.Ready data) (more : c.offset < data.size)
    {buffer : ChunkBuffer}
    (allocated : c.channel.buffer.allocate c.channel.chunkSize.bytes = .ok buffer)
    (went : (c.copy data buffer (c.channel.room data c.offset)).sendFull = (none, c')) :
    c.Left data c' := by
  obtain ⟨storage, -, -, limit, -⟩ := ready.exists_storage allocated
  obtain ⟨sound, -⟩ := ready.sound.flow_take ready.isOpen ready.offset_le allocated
  have pos := ready.room_pos more
  have given : c.offset + c.channel.room data c.offset ≤ data.size := add_room_le ready.offset_le
  have count : c.channel.room data c.offset =
      min (c.channel.chunkSize.bytes - c.channel.buffer.limit) (data.size - c.offset) := rfl
  obtain ⟨offset, keeps, kept⟩ := sendFull_cases went
  rw [offset_copy] at offset
  rw [limit_copy, limit, chunkSize_copy] at kept
  have ready' : c'.Ready data :=
    ready_of_sendFull (c := c.copy data buffer _) sound ready.isOpen given went
  refine ⟨ready', (keeps_buffer c.channel _).trans keeps, by omega, ?_⟩
  obtain ⟨-, small, -⟩ | ⟨-, full, advanced⟩ | ⟨⟨f, failed⟩, -⟩ := kept
  · -- The buffer did not become full, so that it took all there was.
    exact .inl (by omega)
  · exact .inr ⟨by rw [advanced, limit_advance], by omega⟩
  · contradiction

/-- A round copies something unless there is no storage, and leaves what it is to leave. -/
theorem Ready.round (ready : c.Ready data) (more : c.offset < data.size) :
    c.Progress data (c.round data).1 (c.round data).2 ∧
      ∀ c', c.round data = (none, c') → c.Left data c' := by
  rw [Copying.round]
  cases allocated : c.channel.buffer.allocate c.channel.chunkSize.bytes with
  | error shortage =>
    obtain ⟨-, found⟩ := ready.sound.fits.allocate_eq_error allocated
    exact ⟨.shortage found, by simp⟩
  | ok buffer =>
    obtain ⟨storage, stored, size_eq, -, fits⟩ := ready.exists_storage allocated
    obtain ⟨offset, -⟩ := sendFull_cases (c := c.copy data buffer _) rfl
    exact ⟨.copied allocated stored size_eq (ready.room_pos more) fits
      (add_room_le ready.offset_le) rfl offset, fun c' => ready.left_of_copy more allocated⟩

/-- Where there is storage, less is left to be copied after a round. -/
theorem Progress.rest_lt (progress : c.Progress data failure c')
    (available : Shortage.ofSize? c.channel.chunkSize.bytes = none) :
    data.size - c'.offset < data.size - c.offset := by
  cases progress with
  | shortage found =>
    rw [available] at found
    contradiction
  | copied _ _ _ pos _ given _ offset => omega

/-! ### All rounds -/

/-- Rounds come to an end: each of them leaves less to be copied. -/
theorem Ready.exists_rounds (ready : c.Ready data) :
    ∃ heads failure c', Rounds data c heads failure c' := by
  -- The induction is on the number of bytes that are not copied yet.
  induction left : data.size - c.offset using Nat.strongRecOn generalizing c with
  | ind left_bytes ih =>
    by_cases more : c.offset < data.size
    · obtain ⟨-, leaves⟩ := ready.round more
      rcases ended : c.round data with ⟨_ | f, c'⟩
      · have leaves := leaves c' ended
        have offset_lt := leaves.offset_lt
        have offset_le := leaves.ready.offset_le
        obtain ⟨heads, failure, final, later⟩ := ih _ (by omega) leaves.ready rfl
        exact ⟨_, failure, final, .next more ended later⟩
      · exact ⟨_, _, c', .broken more ended⟩
    · exact ⟨[], none, c, .finished (Nat.le_of_not_lt more)⟩

/-- No round begins when all bytes are copied. -/
theorem Rounds.eq_nil (rounds : Rounds data c heads failure c') (all : data.size ≤ c.offset) :
    heads = [] := by
  cases rounds with
  | finished => rfl
  | broken more | next more => omega

/-- How many rounds there are at most, given what is buffered and what is to be copied. -/
theorem Rounds.length_mul_lt (rounds : Rounds data c heads failure c') (ready : c.Ready data) :
    heads.length * c.channel.chunkSize.bytes <
      c.channel.buffer.limit + (data.size - c.offset) + c.channel.chunkSize.bytes := by
  have chunk_pos := c.channel.chunkSize.pos
  induction rounds with
  | finished =>
    rw [List.length_nil, Nat.zero_mul]
    omega
  | broken more =>
    rw [List.length_singleton, Nat.one_mul]
    omega
  | @next c c₁ c' heads failure more went later ih =>
    have leaves := (ready.round more).2 c₁ went
    have bound := ih leaves.ready c₁.channel.chunkSize.pos
    rw [leaves.keeps.chunkSize] at bound
    rw [List.length_cons, Nat.succ_mul]
    obtain all | ⟨empty, rest⟩ := leaves.rest
    · rw [later.eq_nil (Nat.le_of_eq all.symm), List.length_nil, Nat.zero_mul]
      omega
    · omega

/-- Each round begins as the first one does. -/
theorem Rounds.ready_of_mem (rounds : Rounds data c heads failure c') (ready : c.Ready data) :
    ∀ head ∈ heads, head.Ready data ∧ head.offset < data.size ∧ c.channel.Keeps head.channel := by
  induction rounds with
  | finished => simp
  | broken more =>
    intro head mem
    obtain rfl := List.mem_singleton.mp mem
    exact ⟨ready, more, .refl _⟩
  | next more went later ih =>
    have leaves := (ready.round more).2 _ went
    intro head mem
    rcases List.mem_cons.mp mem with rfl | mem
    · exact ⟨ready, more, .refl _⟩
    · obtain ⟨ready', more', keeps⟩ := ih leaves.ready head mem
      exact ⟨ready', more', leaves.keeps.trans keeps⟩

/-! ### The rounds of a write -/

/-- What a write does after a round or after sending a full buffer: it ends with a failure, or it
goes on. -/
def continued (data : ByteArray) : Option Failure × Copying → Except Failure Nat × Channel × Service
  | (some f, c) => (.error f, c.channel, c.service)
  | (none, c) => c.channel.fill data c.offset c.service

/-- Writing begins with sending a full buffer. -/
theorem fill_eq_sendFull (c : Copying) (data : ByteArray) :
    c.channel.fill data c.offset c.service = continued data c.sendFull := by
  rw [sendFull]
  split
  next full =>
    rw [fill, if_pos (Nat.le_of_eq full.symm), flush]
    rcases c.channel.transmit false c.service with ⟨f | _, s⟩ <;> rfl
  next => rfl

/-- Writing goes on with a round. -/
theorem Ready.fill_eq_round (ready : c.Ready data) (more : c.offset < data.size) :
    c.channel.fill data c.offset c.service = continued data (c.round data) := by
  rw [fill, if_neg (Nat.not_le.mpr ready.small), if_pos more, Copying.round]
  cases allocated : c.channel.buffer.allocate c.channel.chunkSize.bytes with
  | error shortage => rfl
  | ok buffer => exact fill_eq_sendFull (c.copy data buffer _) data

/-- The rounds are those of a write. -/
theorem fill_of_rounds (rounds : Rounds data c heads failure c') (ready : c.Ready data) :
    c.channel.fill data c.offset c.service =
      (failure.elim (.ok c'.offset) .error, c'.channel, c'.service) := by
  induction rounds with
  | @finished c all =>
    rw [fill, if_neg (Nat.not_le.mpr ready.small), if_neg (Nat.not_lt.mpr all)]
    rfl
  | broken more failed =>
    rw [ready.fill_eq_round more, failed]
    rfl
  | next more went later ih =>
    rw [ready.fill_eq_round more, went]
    exact ih ((ready.round more).2 _ went).ready

end Copying

variable {ch : Channel}

section Machine

variable [Memory]

/-- A write begins with sending a full buffer; when that fails, it ends so. Otherwise it goes round.
The buffer is never full when a round begins, so that each round copies at least one byte, from what
is left into a part of the storage that is not in use, and there is less left to be copied after it;
only if there is no storage for a chunk, a round fails without copying anything. The rounds come to
an end, and there are at most as many of them as chunks are needed for the bytes held and those
written. -/
theorem write_progresses (reachable : ch.Reachable) (isOpen : ch.isOpen = true) (data : ByteArray)
    (s : Service) :
    (∀ f c, Copying.sendFull ⟨ch, 0, s⟩ = (some f, c) →
      ch.write (.bytes data) s = (.error f, c.channel, c.service)) ∧
    ∀ c, Copying.sendFull ⟨ch, 0, s⟩ = (none, c) →
      (∃ heads failure final, Copying.Rounds data c heads failure final) ∧
      ∀ heads failure final, Copying.Rounds data c heads failure final →
        ch.write (.bytes data) s =
          (failure.elim (.ok final.offset) .error, final.channel, final.service) ∧
        heads.length ≤ (c.channel.buffer.limit + data.size + ch.chunkSize.bytes - 1) /
          ch.chunkSize.bytes ∧
        ∀ head ∈ heads, head.channel.chunkSize = ch.chunkSize ∧
          head.channel.buffer.limit < ch.chunkSize.bytes ∧ head.offset < data.size ∧
          head.Progress data (head.round data).1 (head.round data).2 ∧
          (Shortage.ofSize? ch.chunkSize.bytes = none →
            data.size - (head.round data).2.offset < data.size - head.offset) := by
  refine ⟨fun f c failed => ?_, fun c sent => ?_⟩
  · rw [write_bytes isOpen]
    exact (Copying.fill_eq_sendFull ⟨ch, 0, s⟩ data).trans (by rw [failed]; rfl)
  · have ready : c.Ready data :=
      Copying.ready_of_sendFull (c := ⟨ch, 0, s⟩) reachable.sound isOpen (Nat.zero_le _) sent
    obtain ⟨offset, keeps, -⟩ : c.offset = 0 ∧ ch.Keeps c.channel ∧ _ :=
      Copying.sendFull_cases sent
    refine ⟨ready.exists_rounds, fun heads failure final rounds => ⟨?wrote, ?bound, ?rounds⟩⟩
    case wrote =>
      rw [write_bytes isOpen, ← Copying.fill_of_rounds rounds ready]
      exact (Copying.fill_eq_sendFull ⟨ch, 0, s⟩ data).trans (by rw [sent]; rfl)
    case bound =>
      have bound := rounds.length_mul_lt ready
      rw [keeps.chunkSize, offset] at bound
      rw [Nat.le_div_iff_mul_le ch.chunkSize.pos]
      omega
    case rounds =>
      intro head mem
      obtain ⟨begins, more, keeps'⟩ := rounds.ready_of_mem ready head mem
      have chunkSize := (keeps.trans keeps').chunkSize
      obtain ⟨progress, -⟩ := begins.round more
      refine ⟨chunkSize, chunkSize ▸ begins.small, more, progress, fun available => ?_⟩
      exact progress.rest_lt (by rwa [chunkSize])

end Machine

/-- A full chunk is left over from before, and a byte more than two chunks are written. -/
theorem write_progresses_leftover :
    ∃ (buffered data : ByteArray) (ch : Channel) (c final : Copying) (heads : List Copying)
      (failure : Option Failure), buffered.size = 262144 ∧ data.size = 524289 ∧
      make ⟨0, none, "east"⟩ ⟨"b", "o", none, none⟩ "u" (.int 262144) 0 (some buffered) true =
        .ok ch ∧
      Copying.sendFull ⟨ch, 0, {}⟩ = (none, c) ∧ Copying.Rounds data c heads failure final ∧
      heads.length ≤ 3 ∧ ∀ head ∈ heads, head.channel.buffer.limit < 262144 ∧
        data.size - (head.round data).2.offset < data.size - head.offset := by
  -- The bytes themselves do not matter, and so they are never computed.
  obtain ⟨buffered, buffered_size⟩ : ∃ data : ByteArray, data.size = 262144 :=
    ⟨ChunkBuffer.zeros 262144, ChunkBuffer.size_zeros 262144⟩
  obtain ⟨data, data_size⟩ : ∃ data : ByteArray, data.size = 524289 :=
    ⟨ChunkBuffer.zeros 524289, ChunkBuffer.size_zeros 524289⟩
  have available : Shortage.ofSize? 262144 = none := by decide +kernel
  obtain ⟨size, size_eq⟩ : ∃ size : ChunkSize, size.bytes = 262144 :=
    ⟨⟨262144, by decide, by decide⟩, rfl⟩
  obtain ⟨buffer, initial⟩ : ∃ buffer, initialBuffer size (some buffered) true = .ok buffer :=
    initialBuffer_of_room (by rw [size_eq, Option.getD_some, buffered_size])
      (.inl (by rw [size_eq, available]))
  have made : make ⟨0, none, "east"⟩ ⟨"b", "o", none, none⟩ "u" (.int size.bytes) 0 (some buffered)
      true = .ok ⟨⟨0, none, "east"⟩, ⟨"b", "o", none, none⟩, "u", size, 0, buffer, true⟩ := by
    simp [make, ChunkSize.validate, initial]
  have reachable := Reachable.of_make ⟨by decide, by decide⟩ made
  obtain ⟨-, -, contents⟩ := initialBuffer_eq_ok initial
  have limit : buffer.limit = 262144 := by
    have held := reachable.sound.size_contents
    rw [if_pos rfl, Option.getD_some] at contents
    rw [contents, buffered_size] at held
    exact held.symm
  rw [size_eq] at made
  obtain ⟨ch, ch_eq⟩ : ∃ ch : Channel, ch = ⟨⟨0, none, "east"⟩, ⟨"b", "o", none, none⟩, "u", size,
    0, buffer, true⟩ := ⟨_, rfl⟩
  rw [← ch_eq] at made reachable
  have full : ch.buffer.limit = ch.chunkSize.bytes := by rw [ch_eq, size_eq, limit]
  have accepts : Service.Accepts {} ch.options := by
    rw [ch_eq]
    exact ⟨.inr rfl, fun _ mem => by contradiction⟩
  obtain ⟨s, flushed, -⟩ := transmit_of_accepts accepts false
  have sent : Copying.sendFull ⟨ch, 0, {}⟩ = (none, ⟨ch.advance, 0, s⟩) := by
    rw [Copying.sendFull, if_pos full, flush, flushed]
  have chunk : ch.chunkSize.bytes = 262144 := by rw [ch_eq, size_eq]
  obtain ⟨⟨heads, failure, final, rounds⟩, all⟩ :=
    (write_progresses reachable (by rw [ch_eq]) data {}).2 _ sent
  obtain ⟨-, bound, progress⟩ := all heads failure final rounds
  refine ⟨buffered, data, ch, _, final, heads, failure, buffered_size, data_size, made, sent,
    rounds, ?_, fun head mem => ?_⟩
  · rwa [limit_advance, data_size, chunk] at bound
  · obtain ⟨-, small, -, -, less⟩ := progress head mem
    rw [chunk] at small less
    exact ⟨small, less available⟩

/-- There is no storage for a chunk that addresses do not reach. A round begins, since there is a
byte to be copied, and copies nothing. -/
theorem write_progresses_unreachable :
    ∃ ch c, make ⟨0, none, "main"⟩ ⟨"b", "n", none, none⟩ "u" (.int 9223372036854775808) 0 none
        true = .ok ch ∧
      Copying.sendFull ⟨ch, 0, {}⟩ = (none, c) ∧ c.channel.buffer.limit < ch.chunkSize.bytes ∧
      Copying.Rounds ⟨#[1]⟩ c [c] (some (shortageFailure .addresses)) c ∧
      ¬c.offset < (c.round ⟨#[1]⟩).2.offset := by
  have missing : Shortage.ofSize? 9223372036854775808 = some .addresses :=
    Shortage.ofSize?_of_addressLimit_le (by decide)
  obtain ⟨ch, ch_eq⟩ : ∃ ch, ch = fresh ⟨0, none, "main"⟩ ⟨"b", "n", none, none⟩ "u"
    ⟨9223372036854775808, by decide, by decide⟩ := ⟨_, rfl⟩
  have made : make ⟨0, none, "main"⟩ ⟨"b", "n", none, none⟩ "u" (.int 9223372036854775808) 0 none
      true = .ok ch := by
    rw [ch_eq]
    rfl
  have sent : Copying.sendFull ⟨ch, 0, {}⟩ = (none, ⟨ch, 0, {}⟩) := by
    rw [ch_eq]
    rfl
  have round : Copying.round ⟨#[1]⟩ ⟨ch, 0, {}⟩ =
      (some (shortageFailure .addresses), ⟨ch, 0, {}⟩) := by
    have failed : ch.buffer.allocate ch.chunkSize.bytes = .error .addresses := by
      rw [ch_eq, fresh, ChunkBuffer.released, ChunkBuffer.allocate]
      dsimp only
      rw [missing]
    rw [Copying.round, failed]
  refine ⟨ch, _, made, sent, ?_, .broken Nat.one_pos round, ?_⟩
  · rw [ch_eq]
    decide
  · rw [round]
    exact Nat.lt_irrefl 0

end ResumableUpload.Channel
