import ResumableUpload.Proofs.Snapshot.Basic

/-!
# New channels

Whatever the origin of a channel, it is sound, begins where the origin says, and holds the bytes
that the origin says.

## Main results

* `Origin.create_spec` — the channel of an origin.
-/

namespace ResumableUpload

namespace Channel

/-- A channel that is announced is fresh. -/
theorem announce_eq_ok {options : ServiceOptions} {blob : Blob} {chunkSize : ChunkSize}
    {event : String → String → Event} {opened : Except Failure String × Service} {ch : Channel}
    {s : Service} (h : announce options blob chunkSize event opened = (.ok ch, s)) :
    ∃ uploadId, ch = fresh options blob uploadId chunkSize := by
  obtain ⟨result, s₁⟩ := opened
  cases result with
  | error f => simp [announce] at h
  | ok uploadId =>
    simp only [announce, Prod.mk.injEq, Except.ok.injEq] at h
    exact ⟨uploadId, h.1.symm⟩

/-- A channel that is opened for a blob is fresh. -/
theorem openBlob_eq_ok {options : ServiceOptions} {blob : Blob} {session : SessionOptions}
    {requested : Value} {s s' : Service} {ch : Channel}
    (h : openBlob options blob session requested s = (.ok ch, s')) :
    ∃ uploadId chunkSize, ch = fresh options blob uploadId chunkSize := by
  rw [openBlob] at h
  split at h
  · simp at h
  next chunkSize s₁ _ =>
    obtain ⟨uploadId, rfl⟩ := announce_eq_ok h
    exact ⟨uploadId, chunkSize, rfl⟩

/-- A channel that is opened through a signed address is fresh, and its blob is the one that the
address names. -/
theorem openSigned_eq_ok {options : ServiceOptions} {url : String} {requested : Value}
    {s s' : Service} {ch : Channel} (h : openSigned options url requested s = (.ok ch, s')) :
    ∃ blob uploadId chunkSize, SignedUrl.blob url = .ok blob ∧
      ch = fresh options blob uploadId chunkSize := by
  rw [openSigned_eq] at h
  split at h
  · simp at h
  next chunkSize s₁ _ =>
    split at h
    · simp at h
    next blob named =>
      obtain ⟨uploadId, rfl⟩ := announce_eq_ok h
      exact ⟨blob, uploadId, chunkSize, named, rfl⟩

end Channel

variable [Memory]

/-- The channel of an origin is sound, begins where the origin says, and holds the bytes that the
origin says. -/
theorem Origin.create_spec {origin : Origin} {s s' : Service} {ch : Channel}
    (h : origin.create s = (.ok ch, s')) :
    ch.Sound ∧ (ch.position : Int) = origin.position ∧ ch.buffer.contents = origin.buffered := by
  cases origin with
  | made options blob uploadId chunkSize position buffered isOpen =>
    have made := mapError_eq_ok_iff.mp (congrArg Prod.fst h)
    obtain ⟨size, buffer, -, notNegative, initial, eq⟩ := Channel.make_eq_ok made
    obtain ⟨-, -, contents⟩ := Channel.initialBuffer_eq_ok initial
    refine ⟨Channel.sound_make made, ?_, ?_⟩
    · rw [eq]
      exact Int.toNat_of_nonneg notNegative
    · rw [eq]
      exact contents
  | opened options blob session requested =>
    obtain ⟨uploadId, chunkSize, rfl⟩ := Channel.openBlob_eq_ok h
    exact ⟨Channel.sound_fresh _ _ _ _, rfl, rfl⟩
  | openedSigned options url requested =>
    obtain ⟨blob, uploadId, chunkSize, -, rfl⟩ := Channel.openSigned_eq_ok h
    exact ⟨Channel.sound_fresh _ _ _ _, rfl, rfl⟩
  | restored snapshot =>
    have restored := mapError_eq_ok_iff.mp (congrArg Prod.fst h)
    obtain ⟨sound, state⟩ := Snapshot.state_of_restore (Prod.ext restored rfl)
    have position : ch.position = snapshot.position := congrArg Snapshot.position state
    have isOpen : ch.isOpen = snapshot.isOpen := congrArg Snapshot.isOpen state
    have buffer := congrArg Snapshot.buffer state
    simp only [Channel.state, Snapshot.normalized, isOpen] at buffer
    refine ⟨sound, congrArg _ position, ?_⟩
    cases open? : snapshot.isOpen with
    | false =>
      rw [open?] at isOpen
      rw [sound.contents_of_closed isOpen]
      simp [buffered, open?]
    | true =>
      simp only [open?, if_true, Option.some.injEq] at buffer
      simp [buffered, open?, buffer]

end ResumableUpload
