import ResumableUpload.Proofs.Channel.Chunking
import ResumableUpload.Proofs.Service.Attempts
import ResumableUpload.Proofs.Session.Reachable

/-!
# What one write does

The bytes that a channel holds and those that are written make up a stream. A write attempts to send
the full slices of it, one after the other, up to the first attempt that fails. Where it ends is the
beginning of what the channel holds afterwards: the rest of the stream, or the one chunk that did
not go out.

## Main definitions

* `Channel.Tried` — the channel after attempts at the slices of a stream.

## Main results

* `Channel.Sound.fill_attempts` — writing bytes is attempting to send slices.
* `Channel.write_attempts` — the exact effect of a write.
-/

namespace ResumableUpload.Channel

variable {ch ch' : Channel} {done : Nat} {failure : Option Failure} {s s' : Service}
  {stream : ByteArray}

section Machine

variable [Memory]

/-- The channel once some slices of a stream are accepted: it stands behind them, and it holds the
next one if that did not go out, or else the rest of the stream. -/
structure Tried (ch : Channel) (stream : ByteArray) (done : Nat) (failure : Option Failure)
    (ch' : Channel) : Prop where
  /-- The channel stays sound. -/
  sound : ch'.Sound
  /-- Its session and its settings stay. -/
  keeps : ch.Keeps ch'
  /-- Accepted slices count. -/
  position : ch'.position = ch.position + done * ch.chunkSize.bytes
  /-- What is held begins behind them. -/
  contents : ch'.buffer.contents = stream.extract (done * ch.chunkSize.bytes)
    (failure.elim stream.size fun _ => (done + 1) * ch.chunkSize.bytes)

/-- The chunk of a full buffer is the first slice of the stream. -/
theorem Sound.slices_eq (sound : ch.Sound) (full : ch.chunkSize.bytes ≤ ch.buffer.limit)
    (rest : ByteArray) :
    Transmission.slices ch.uploadId ch.chunkSize.bytes ch.position (ch.buffer.contents ++ rest) =
      ch.chunk false :: Transmission.slices ch.uploadId ch.chunkSize.bytes
        (ch.position + ch.buffer.limit) rest := by
  have limit : ch.buffer.limit = ch.chunkSize.bytes := Nat.le_antisymm sound.limit_le full
  have size : ch.buffer.contents.size = ch.chunkSize.bytes := by rw [sound.size_contents, limit]
  rw [Transmission.slices_append size ch.chunkSize.pos, chunk, limit]

/-- What is left behind the first slice of a stream, once that is accepted, is left of the stream.
-/
theorem Tried.behind (sound : ch.Sound) (full : ch.chunkSize.bytes ≤ ch.buffer.limit)
    {rest : ByteArray} (later : ch.advance.Tried rest done failure ch') :
    ch.Tried (ch.buffer.contents ++ rest) (done + 1) failure ch' where
  sound := later.sound
  keeps := (keeps_advance ch).trans later.keeps
  position := by
    have limit : ch.buffer.limit = ch.chunkSize.bytes := Nat.le_antisymm sound.limit_le full
    rw [later.position, position_advance, chunkSize_advance, limit, Nat.succ_mul]
    omega
  contents := by
    have size : ch.buffer.contents.size = ch.chunkSize.bytes := by
      rw [sound.size_contents]
      exact Nat.le_antisymm sound.limit_le full
    rw [later.contents, chunkSize_advance]
    cases failure with
    | none =>
      rw [Option.elim_none, Option.elim_none, ByteArray.size_append, size,
        Nat.add_comm ch.chunkSize.bytes, Transmission.extract_behind size]
    | some f =>
      rw [Option.elim_some, Option.elim_some, Nat.succ_mul (done + 1),
        Transmission.extract_behind size]

/-- When all slices are accepted, less than a chunk is left. -/
theorem Tried.limit_of_complete (tried : ch.Tried stream done none ch')
    (all : done = stream.size / ch.chunkSize.bytes) :
    ch'.buffer.limit = stream.size % ch.chunkSize.bytes := by
  rw [← tried.sound.size_contents, tried.contents, Option.elim_none, ByteArray.size_extract,
    Nat.min_self, all, Nat.mod_eq_sub_div_mul]

/-- When a slice does not go out, it is held as a whole. -/
theorem Tried.limit_of_broken {f : Failure} (tried : ch.Tried stream done (some f) ch')
    (less : done < stream.size / ch.chunkSize.bytes) :
    ch'.buffer.limit = ch.chunkSize.bytes := by
  have inside : (done + 1) * ch.chunkSize.bytes ≤ stream.size :=
    Nat.le_trans (Nat.mul_le_mul_right _ less) (Nat.div_mul_le_self _ _)
  rw [← tried.sound.size_contents, tried.contents, Option.elim_some, ByteArray.size_extract,
    Nat.min_eq_left inside, Nat.succ_mul, Nat.add_sub_cancel_left]

/-- Writing the bytes of `data` from `offset` on is attempting to send the slices of the stream that
they make up together with what is held. -/
theorem Sound.fill_attempts (sound : ch.Sound) (isOpen : ch.isOpen = true) {data : ByteArray}
    {offset : Nat} (offset_le : offset ≤ data.size) (room : ch.HasRoom (data.size - offset))
    (stream_eq : stream = ch.buffer.contents ++ data.extract offset data.size)
    (tried : s.attemptAll ch.options ch.blob.id
      (Transmission.slices ch.uploadId ch.chunkSize.bytes ch.position stream) =
        (done, failure, s')) :
    ∃ ch', ch.fill data offset s = (failure.elim (.ok data.size) .error, ch', s') ∧
      ch.Tried stream done failure ch' := by
  -- Each full buffer is the first slice of what is left of the stream; taking bytes into the buffer
  -- leaves the stream as it is.
  fun_induction fill ch data offset s generalizing stream done with
  | case1 ch offset s full f s₁ eq =>
    have limit : ch.buffer.limit = ch.chunkSize.bytes := Nat.le_antisymm sound.limit_le full
    have attempted : s.attempt ch.options ch.blob.id (ch.chunk false) = (.error f, s₁) := eq
    rw [stream_eq, sound.slices_eq full, Service.attemptAll, attempted] at tried
    simp only [Prod.mk.injEq] at tried
    obtain ⟨rfl, rfl, rfl⟩ := tried
    refine ⟨ch, rfl, sound, .refl ch, by simp, ?_⟩
    rw [stream_eq, Option.elim_some, Nat.zero_mul, Nat.zero_add, Nat.one_mul,
      ByteArray.extract_append_eq_left (by rw [sound.size_contents, limit])]
  | case2 ch offset s full s₁ eq ih =>
    have attempted : s.attempt ch.options ch.blob.id (ch.chunk false) = (.ok (), s₁) := eq
    rw [stream_eq, sound.slices_eq full, Service.attemptAll, attempted] at tried
    rcases later : s₁.attemptAll ch.options ch.blob.id (Transmission.slices ch.uploadId
      ch.chunkSize.bytes (ch.position + ch.buffer.limit) (data.extract offset data.size)) with
      ⟨done', failure', s₂⟩
    simp only [later, Prod.mk.injEq] at tried
    obtain ⟨rfl, rfl, rfl⟩ := tried
    obtain ⟨ch', filled, spec⟩ := ih sound.advance isOpen offset_le room (by simp) later
    rw [stream_eq]
    exact ⟨ch', filled, spec.behind sound full⟩
  | case3 ch offset s small rest shortage eq =>
    obtain ⟨-, found⟩ := sound.fits.allocate_eq_error eq
    rcases room with available | nothing
    · rw [available] at found
      contradiction
    · omega
  | case4 ch offset s small rest buffer eq count =>
    rename_i ih
    obtain ⟨sound', taken⟩ := sound.flow_take isOpen offset_le eq
    have given : offset + count ≤ data.size := add_room_le offset_le
    have stream_eq' : stream = (buffer.take data offset count).contents ++
        data.extract (offset + count) data.size := by
      have contents := taken.stream
      rw [acceptedBytes_nil, ByteArray.empty_append] at contents
      rw [contents, ByteArray.append_assoc, stream_eq,
        ← ByteArray.extract_eq_extract_append_extract (offset + count) (by omega) given]
    obtain ⟨ch', filled, spec⟩ := ih sound' isOpen given
      (room.imp_right fun nothing => by omega) stream_eq' tried
    exact ⟨ch', filled, spec.sound, (keeps_buffer ch _).trans spec.keeps, spec.position,
      spec.contents⟩
  | case5 ch offset s small finished =>
    have offset_eq : offset = data.size := by omega
    rw [offset_eq, ByteArray.extract_same, ByteArray.append_empty] at stream_eq
    have stream_size : stream.size = ch.buffer.limit := by rw [stream_eq, sound.size_contents]
    rw [Transmission.slices_of_small (by omega), Service.attemptAll] at tried
    simp only [Prod.mk.injEq] at tried
    obtain ⟨rfl, rfl, rfl⟩ := tried
    refine ⟨ch, by rw [offset_eq]; rfl, sound, .refl ch, by simp, ?_⟩
    rw [Option.elim_none, Nat.zero_mul, ByteArray.extract_zero_size, stream_eq]

/-- Where there is no room for a byte that is offered, storage cannot be had. -/
theorem shortage_of_not_hasRoom {count : Nat} (missing : ¬ch.HasRoom count) :
    0 < count ∧ ∃ shortage, Shortage.ofSize? ch.chunkSize.bytes = some shortage := by
  simp only [HasRoom, not_or] at missing
  exact ⟨Nat.pos_of_ne_zero missing.2, Option.ne_none_iff_exists'.mp missing.1⟩

/-- The exact effect of writing bytes to an open channel. The bytes held and those written make up a
stream, and its full slices are attempted one after the other. When all are accepted, the write
deals with all bytes, and less than a chunk is left. When one is not, or no handle can be had, that
failure is the answer, nothing else is asked for, and the channel holds just that slice. The
position counts the slices accepted, and nothing else changes. But where storage for a chunk cannot
be had, writing a byte fails with that, and does nothing. -/
theorem write_attempts (reachable : ch.Reachable) (isOpen : ch.isOpen = true)
    {data : ByteArray} (stream_eq : stream = ch.buffer.contents ++ data)
    {slices : List Transmission} (slices_eq : slices =
      Transmission.slices ch.uploadId ch.chunkSize.bytes ch.position stream)
    (tried : s.attemptAll ch.options ch.blob.id slices = (done, failure, s')) :
    (ch.HasRoom data.size →
      Service.Attempted ch.options (s.HasHandle ch.options) slices done failure
        (s.historySince s') ∧
      ∃ ch', ch.Keeps ch' ∧ ch'.position = ch.position + done * ch.chunkSize.bytes ∧
        (failure = none → done = (ch.buffer.limit + data.size) / ch.chunkSize.bytes ∧
          ch.write (.bytes data) s = (.ok data.size, ch', s') ∧
          ch'.buffer.contents = stream.extract (done * ch.chunkSize.bytes) stream.size ∧
          ch'.buffer.limit = (ch.buffer.limit + data.size) % ch.chunkSize.bytes) ∧
        (∀ f, failure = some f → done < (ch.buffer.limit + data.size) / ch.chunkSize.bytes ∧
          ch.write (.bytes data) s = (.error f, ch', s') ∧
          ch'.buffer.contents = stream.extract (done * ch.chunkSize.bytes)
            ((done + 1) * ch.chunkSize.bytes) ∧
          ch'.buffer.limit = ch.chunkSize.bytes ∧
          ch'.reach = ch.reach + ((done + 1) * ch.chunkSize.bytes - ch.buffer.limit))) ∧
    (¬ch.HasRoom data.size → ∃ shortage, Shortage.ofSize? ch.chunkSize.bytes = some shortage ∧
      ch.write (.bytes data) s = (.error (shortageFailure shortage), ch, s)) := by
  have sound := reachable.sound
  constructor
  · intro room
    have stream_size : stream.size = ch.buffer.limit + data.size := by
      rw [stream_eq, ByteArray.size_append, sound.size_contents]
    obtain ⟨history, makes, attempted⟩ := Service.attempted_attemptAll tried
    have length : slices.length = (ch.buffer.limit + data.size) / ch.chunkSize.bytes := by
      rw [slices_eq, Transmission.slices, List.length_map, List.length_range, stream_size]
    rw [slices_eq] at tried
    obtain ⟨ch', filled, spec⟩ := sound.fill_attempts isOpen (Nat.zero_le _) room
      (by rw [ByteArray.extract_zero_size, stream_eq]) tried
    rw [← write_bytes isOpen] at filled
    rw [makes.historySince]
    rw [← stream_size] at length ⊢
    refine ⟨attempted, ch', spec.keeps, spec.position, ?complete, ?broken⟩
    case complete =>
      rintro rfl
      obtain ⟨-, all⟩ | ⟨⟨f, failed⟩, -⟩ := attempted.done_cases
      · rw [length] at all
        exact ⟨all, filled, spec.contents, spec.limit_of_complete all⟩
      · contradiction
    case broken =>
      rintro f rfl
      obtain ⟨other, -⟩ | ⟨-, less⟩ := attempted.done_cases
      · contradiction
      · rw [length] at less
        have held := spec.limit_of_broken less
        refine ⟨less, filled, spec.contents, held, ?_⟩
        have limit_le := sound.limit_le
        rw [reach, reach, spec.position, held, Nat.succ_mul]
        omega
  · intro missing
    obtain ⟨offered, shortage, found⟩ := shortage_of_not_hasRoom missing
    exact ⟨shortage, found, write_of_shortage sound isOpen found offered⟩

end Machine

/-- Two chunks are written to a fresh channel; the first is accepted and the second is not. -/
theorem write_attempts_rejected :
    ∃ (data : ByteArray) (s s' : Service) (ch ch' : Channel), data.size = 524288 ∧
      s = ({} : Service).setEndpoint "east" { uploadScript := [.accept none, .fail .closed] } ∧
      make ⟨0, none, "east"⟩ ⟨"b", "o", none, none⟩ "u" (.int 262144) 5 none true = .ok ch ∧
      ch.write (.bytes data) s = (.error .closed, ch', s') ∧ ch'.position = 5 + 262144 ∧
      ch'.buffer.contents = data.extract 262144 524288 ∧ ch'.buffer.limit = 262144 ∧
      ch'.reach = ch.reach + 524288 ∧
      Service.Attempted ch.options False
        (Transmission.slices "u" 262144 5 data) 1 (some .closed) (s.historySince s') := by
  -- The bytes themselves do not matter, and so they are never computed.
  obtain ⟨data, data_size⟩ : ∃ data : ByteArray, data.size = 524288 :=
    ⟨ChunkBuffer.zeros 524288, ChunkBuffer.size_zeros 524288⟩
  obtain ⟨ch, made, ch_eq⟩ : ∃ ch, make ⟨0, none, "east"⟩ ⟨"b", "o", none, none⟩ "u" (.int 262144)
      5 none true = .ok ch ∧ ch = ⟨⟨0, none, "east"⟩, ⟨"b", "o", none, none⟩, "u",
        ⟨262144, by decide, by decide⟩, 5, .released, true⟩ := ⟨_, rfl, rfl⟩
  obtain ⟨s, s_eq⟩ : ∃ s, s = ({} : Service).setEndpoint "east"
      { uploadScript := [.accept none, .fail .closed] } := ⟨_, rfl⟩
  have number : data.size / 262144 = 2 := by rw [data_size]
  obtain ⟨s', tried⟩ : ∃ s', s.attemptAll ch.options ch.blob.id
      (Transmission.slices "u" 262144 5 data) = (1, some .closed, s') := by
    rw [ch_eq, s_eq, Transmission.slices, number]
    exact ⟨_, rfl⟩
  have room : ch.HasRoom data.size := by
    rw [ch_eq]
    exact .inl (by decide +kernel)
  have unknown : s.HasHandle ch.options ↔ False := by
    rw [s_eq, ch_eq]
    exact iff_of_false Bool.false_ne_true not_false
  have stream_eq : data = ch.buffer.contents ++ data := by
    rw [ch_eq, ChunkBuffer.contents_released, ByteArray.empty_append]
  obtain ⟨attempted, ch', keeps, moved, -, broken⟩ := (write_attempts
    (Reachable.of_make ⟨by decide, by decide⟩ made) (by rw [ch_eq]) stream_eq
    (by rw [ch_eq]) tried).1 room
  obtain ⟨-, wrote, contents, limit, reach_eq⟩ := broken .closed rfl
  subst ch_eq
  rw [unknown] at attempted
  exact ⟨data, s, s', _, ch', data_size, s_eq, made, wrote, moved, contents, limit, reach_eq,
    attempted⟩

/-- Storage for a chunk that addresses do not reach cannot be had. Writing a byte, which needs no
transmission at all, fails. -/
theorem write_attempts_unreachable :
    ∃ ch, make ⟨0, none, "main"⟩ ⟨"b", "n", none, none⟩ "u" (.int 9223372036854775808) 0 none true =
        .ok ch ∧
      Service.attemptAll ch.options ch.blob.id (Transmission.slices ch.uploadId ch.chunkSize.bytes
        ch.position (ch.buffer.contents ++ ⟨#[1]⟩)) {} = (0, none, {}) ∧
      ch.write (.bytes ⟨#[1]⟩) {} = (.error (shortageFailure .addresses), ch, {}) ∧
      (ch.write (.bytes ⟨#[1]⟩) {}).1 ≠ .ok 1 := by
  have shortage : Shortage.ofSize? 9223372036854775808 = some .addresses :=
    Shortage.ofSize?_of_addressLimit_le (by decide)
  have made : make ⟨0, none, "main"⟩ ⟨"b", "n", none, none⟩ "u" (.int 9223372036854775808) 0 none
    true = .ok (fresh _ _ _ ⟨9223372036854775808, by decide, by decide⟩) := rfl
  have wrote := write_of_shortage (s := {}) (sound_make made) rfl shortage
    (by decide : 0 < (⟨#[1]⟩ : ByteArray).size)
  refine ⟨_, made, ?_, wrote, ?_⟩
  · have nothing : Transmission.slices "u" 9223372036854775808 0 (ByteArray.empty ++ ⟨#[1]⟩) = [] :=
      Transmission.slices_of_small (by decide)
    change Service.attemptAll _ _ (Transmission.slices "u" 9223372036854775808 0
      (ByteArray.empty ++ ⟨#[1]⟩)) {} = (0, none, {})
    rw [nothing]
    rfl
  · rw [wrote]
    simp

end ResumableUpload.Channel
