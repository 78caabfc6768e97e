import ResumableUpload.Session.Origin

/-!
# Sound channels

The buffer of a channel has room for exactly one chunk, and a closed channel has no buffer. Channels
are made so, and no operation changes it.

## Main definitions

* `Channel.Sound` — the invariant.
* `Channel.SameSession` — two channels of one session.
* `Channel.Keeps` — a channel and another of the same session, with equal settings.
-/

namespace ResumableUpload.Channel

/-- The invariant of channels. -/
structure Sound [Memory] (ch : Channel) : Prop where
  /-- The buffer has room for one chunk. -/
  fits : ch.buffer.Fits ch.chunkSize.bytes
  /-- A closed channel has no buffer. -/
  released_of_closed : ch.isOpen = false → ch.buffer = .released

/-- The channels send the same blob to the same session. -/
structure SameSession (ch ch' : Channel) : Prop where
  /-- The blob is the same. -/
  blob : ch'.blob = ch.blob
  /-- The session is the same. -/
  uploadId : ch'.uploadId = ch.uploadId

/-- A channel belongs to its own session. -/
theorem SameSession.refl (ch : Channel) : ch.SameSession ch := ⟨rfl, rfl⟩

/-- What belongs to the session of another one of the session belongs to it. -/
theorem SameSession.trans {ch₁ ch₂ ch₃ : Channel} (h₁ : ch₁.SameSession ch₂)
    (h₂ : ch₂.SameSession ch₃) : ch₁.SameSession ch₃ :=
  ⟨h₂.blob.trans h₁.blob, h₂.uploadId.trans h₁.uploadId⟩

/-- The second channel belongs to the same session and has the same settings. -/
structure Keeps (ch ch' : Channel) : Prop where
  /-- The options are the same. -/
  options : ch'.options = ch.options
  /-- The blob is the same. -/
  blob : ch'.blob = ch.blob
  /-- The session is the same. -/
  uploadId : ch'.uploadId = ch.uploadId
  /-- The chunk size is the same. -/
  chunkSize : ch'.chunkSize = ch.chunkSize
  /-- Both are open, or both are closed. -/
  isOpen : ch'.isOpen = ch.isOpen

/-- A channel keeps what it is. -/
theorem Keeps.refl (ch : Channel) : ch.Keeps ch := ⟨rfl, rfl, rfl, rfl, rfl⟩

/-- What is kept twice is kept. -/
theorem Keeps.trans {ch₁ ch₂ ch₃ : Channel} (h₁ : ch₁.Keeps ch₂) (h₂ : ch₂.Keeps ch₃) :
    ch₁.Keeps ch₃ :=
  ⟨h₂.options.trans h₁.options, h₂.blob.trans h₁.blob, h₂.uploadId.trans h₁.uploadId,
    h₂.chunkSize.trans h₁.chunkSize, h₂.isOpen.trans h₁.isOpen⟩

/-- Advancing changes position and buffer only. -/
theorem keeps_advance (ch : Channel) : ch.Keeps ch.advance := ⟨rfl, rfl, rfl, rfl, rfl⟩

/-- Another buffer is not another session. -/
theorem keeps_buffer (ch : Channel) (buffer : ChunkBuffer) :
    ch.Keeps { ch with buffer := buffer } :=
  ⟨rfl, rfl, rfl, rfl, rfl⟩

variable {ch : Channel}

/-- What setting the chunk size does when it succeeds. -/
theorem setChunkSize_eq_ok {size : Value} {ch' : Channel} (h : ch.setChunkSize size = .ok ch') :
    ch.isOpen = true ∧ ch.position = 0 ∧ ch.buffer.limit = 0 ∧
      ∃ chunkSize, ChunkSize.validate size = .ok chunkSize ∧
        ch' = { ch with chunkSize := chunkSize, buffer := .released } := by
  rw [setChunkSize] at h
  split at h
  · contradiction
  next isOpen =>
    split at h
    · contradiction
    next untouched =>
      simp only [not_or, ne_eq, Decidable.not_not] at untouched
      split at h
      · contradiction
      next chunkSize valid =>
        simp only [Except.ok.injEq] at h
        exact ⟨by simpa using isOpen, untouched.1, untouched.2, chunkSize, valid, h.symm⟩

variable [Memory]

/-- The bytes held are as many as are in use. -/
theorem Sound.size_contents (sound : ch.Sound) : ch.buffer.contents.size = ch.buffer.limit :=
  sound.fits.size_contents

/-- A sound channel holds at most one chunk. -/
theorem Sound.limit_le (sound : ch.Sound) : ch.buffer.limit ≤ ch.chunkSize.bytes :=
  sound.fits.limit_le

/-- A closed channel holds no bytes. -/
theorem Sound.contents_of_closed (sound : ch.Sound) (closed : ch.isOpen = false) :
    ch.buffer.contents = .empty := by
  rw [sound.released_of_closed closed, ChunkBuffer.contents_released]

/-- An advanced channel is sound. -/
theorem Sound.advance (sound : ch.Sound) : ch.advance.Sound where
  fits := sound.fits.clear
  released_of_closed closed := by
    have released := sound.released_of_closed closed
    simp only [Channel.advance, released, ChunkBuffer.clear, ChunkBuffer.released]

/-- A channel that was shut is sound. -/
theorem sound_shut (ch : Channel) : ch.shut.Sound := ⟨.released, fun _ => rfl⟩

/-- A fresh channel is sound. -/
theorem sound_fresh (options : ServiceOptions) (blob : Blob) (uploadId : String)
    (chunkSize : ChunkSize) : (fresh options blob uploadId chunkSize).Sound :=
  ⟨.released, fun _ => rfl⟩

/-- What the buffer of a new channel is: there is none, or it holds the given bytes. -/
theorem initialBuffer_eq_ok {chunkSize : ChunkSize} {buffered : Option ByteArray} {isOpen : Bool}
    {buffer : ChunkBuffer} (h : initialBuffer chunkSize buffered isOpen = .ok buffer) :
    buffer.Fits chunkSize.bytes ∧ (isOpen = false → buffer = .released) ∧
      buffer.contents = if isOpen then buffered.getD .empty else .empty := by
  unfold initialBuffer at h
  split at h
  · simp only [Except.ok.injEq] at h
    subst h
    exact ⟨.released, fun _ => rfl, by simp⟩
  next data =>
    split at h
    next idle =>
      simp only [Except.ok.injEq] at h
      subst h
      refine ⟨.released, fun _ => rfl, ?_⟩
      cases isOpen with
      | false => rfl
      | true =>
        have empty : data = .empty := by
          simpa [ByteArray.isEmpty, ByteArray.size_eq_zero_iff] using idle
        simp [empty]
    next busy =>
      have isOpen_eq : isOpen = true := by
        simp only [Bool.or_eq_true, Bool.not_eq_true', not_or, Bool.not_eq_false] at busy
        exact busy.2
      split at h
      · contradiction
      next small =>
        split at h
        · contradiction
        next allocated eq =>
          simp only [Except.ok.injEq] at h
          subst h
          obtain ⟨fits, storage, limit, contents⟩ :=
            ChunkBuffer.Fits.released.of_allocate eq
          rw [ChunkBuffer.limit_released] at limit
          rw [ChunkBuffer.contents_released] at contents
          have room : allocated.limit + data.size ≤ chunkSize.bytes := by omega
          have given : 0 + data.size ≤ data.size := by omega
          obtain ⟨fits', contents'⟩ := fits.take storage room given
          refine ⟨fits', fun closed => ?_, ?_⟩
          · rw [isOpen_eq] at closed
            contradiction
          · rw [contents', contents, isOpen_eq]
            simp [ByteArray.extract_zero_size]

/-- What a new channel is. -/
theorem make_eq_ok {options : ServiceOptions} {blob : Blob} {uploadId : String} {chunkSize : Value}
    {position : Int} {buffered : Option ByteArray} {isOpen : Bool}
    (h : make options blob uploadId chunkSize position buffered isOpen = .ok ch) :
    ∃ (size : ChunkSize) (buffer : ChunkBuffer), ChunkSize.validate chunkSize = .ok size ∧
      0 ≤ position ∧ initialBuffer size buffered isOpen = .ok buffer ∧
      ch = ⟨options, blob, uploadId, size, position.toNat, buffer, isOpen⟩ := by
  rw [make] at h
  split at h
  · contradiction
  next size valid =>
    split at h
    · contradiction
    next notNegative =>
      split at h
      · contradiction
      next buffer initial =>
        simp only [Except.ok.injEq] at h
        exact ⟨size, buffer, valid, by omega, initial, h.symm⟩

/-- A new channel is sound. -/
theorem sound_make {options : ServiceOptions} {blob : Blob} {uploadId : String} {chunkSize : Value}
    {position : Int} {buffered : Option ByteArray} {isOpen : Bool}
    (h : make options blob uploadId chunkSize position buffered isOpen = .ok ch) : ch.Sound := by
  obtain ⟨size, buffer, -, -, initial, rfl⟩ := make_eq_ok h
  obtain ⟨fits, released, -⟩ := initialBuffer_eq_ok initial
  exact ⟨fits, released⟩

end ResumableUpload.Channel
