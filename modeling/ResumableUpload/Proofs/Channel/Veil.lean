import ResumableUpload.Client.Veil

/-!
# Operations under a veil

Nothing that is done to a channel looks at the content of bytes: bytes are only counted, cut and put
together, and this can be done to veiled ones as well. So veiling what goes into an operation veils
what comes out of it, and changes nothing else; in particular not how it ends.

## Main results

* `veil_append`, `veil_extract` — putting bytes together and cutting them.
* `Channel.transmit_veiled`, `Channel.fill_veiled`, `Channel.perform_veiled` — operations.
* `Origin.create_veiled` — the creation of a channel.
-/

namespace ResumableUpload

/-! ### Bytes -/

/-- Fresh storage holds zeros. -/
theorem data_zeros (size : Nat) : (ChunkBuffer.zeros size).data = Array.replicate size 0 := by
  fun_induction ChunkBuffer.zeros size with
  | case1 => rfl
  | case2 size size_ne half even ih =>
    rw [ByteArray.data_append, ih, Array.replicate_append_replicate]
    congr 1
    omega
  | case3 size size_ne half odd ih =>
    rw [ByteArray.data_push, ByteArray.data_append, ih, Array.replicate_append_replicate,
      ← Array.replicate_succ]
    congr 1
    omega

/-- The zeros in place of bytes. -/
theorem data_veil (bytes : ByteArray) : (veil bytes).data = Array.replicate bytes.size 0 :=
  data_zeros bytes.size

/-- A veil keeps the number of bytes. -/
@[simp] theorem size_veil (bytes : ByteArray) : (veil bytes).size = bytes.size :=
  ChunkBuffer.size_zeros bytes.size

/-- There is nothing to veil. -/
@[simp] theorem veil_empty : veil .empty = .empty := ByteArray.ext (data_veil .empty)

/-- Fresh storage looks veiled. -/
@[simp] theorem veil_zeros (size : Nat) :
    veil (ChunkBuffer.zeros size) = ChunkBuffer.zeros size := by
  rw [veil, ChunkBuffer.size_zeros]

/-- Bytes that are put together are veiled one after the other. -/
@[simp] theorem veil_append (a b : ByteArray) : veil (a ++ b) = veil a ++ veil b := by
  refine ByteArray.ext ?_
  rw [ByteArray.data_append, data_veil, data_veil, data_veil, ByteArray.size_append,
    Array.replicate_append_replicate]

/-- A part of bytes is veiled as a part of veiled bytes. -/
@[simp] theorem veil_extract (bytes : ByteArray) (start stop : Nat) :
    veil (bytes.extract start stop) = (veil bytes).extract start stop := by
  refine ByteArray.ext ?_
  rw [ByteArray.data_extract, data_veil, data_veil, ByteArray.size_extract, Array.extract_replicate]

/-! ### The buffer -/

namespace ChunkBuffer

/-- The bytes in use of a veiled buffer. -/
@[simp] theorem contents_veiled (b : ChunkBuffer) : b.veiled.contents = veil b.contents := by
  obtain ⟨_ | bytes, limit⟩ := b
  · exact veil_empty.symm
  · exact (veil_extract bytes 0 limit).symm

/-- A veiled buffer is as full. -/
@[simp] theorem limit_veiled (b : ChunkBuffer) : b.veiled.limit = b.limit := rfl

/-- Allocation under a veil. -/
theorem allocate_veiled [Memory] (size : Nat) (b : ChunkBuffer) :
    b.veiled.allocate size = (b.allocate size).map veiled := by
  obtain ⟨_ | bytes, limit⟩ := b
  · cases found : Shortage.ofSize? size with
    | none => simp [allocate, veiled, found, Except.map]
    | some shortage => simp [allocate, veiled, found, Except.map]
  · rfl

/-- Taking bytes under a veil. -/
theorem take_veiled (data : ByteArray) (offset count : Nat) (b : ChunkBuffer) :
    b.veiled.take (veil data) offset count = (b.take data offset count).veiled := by
  obtain ⟨_ | bytes, limit⟩ := b
  · rfl
  · simp [take, veiled, replace]

end ChunkBuffer

/-! ### Requests -/

namespace Service

variable {o : ServiceOptions} {s s' : Service}

/-- The outcome of a request does not depend on bytes. -/
theorem ask_veiled (o : ServiceOptions) (request : Request) (s : Service) :
    ask o request.veiled s.veiled = ((ask o request s).1, (ask o request s).2.veiled) := by
  cases request <;>
    simp [ask, setEndpoint, veiled, Request.veiled, Call.veiled, Endpoint.answer]

/-- Handles have nothing to do with bytes. -/
theorem requestHandle_veiled (o : ServiceOptions) (s : Service) :
    requestHandle o s.veiled = ((requestHandle o s).1, (requestHandle o s).2.veiled) := by
  have asked := ask_veiled o .handle (s.note (.creatingHandle o.projectId))
  rw [requestHandle, requestHandle]
  by_cases known : s.handles.contains o.identity = true
  · rw [if_pos known, if_pos (by exact known)]
  · rw [if_neg known, if_neg (by exact known)]
    change ask o .handle (s.veiled.note (.creatingHandle o.projectId)) = _ at asked
    rw [asked]
    cases ask o .handle (s.note (.creatingHandle o.projectId)) with
    | mk outcome s₁ => cases outcome <;> rfl

/-- A session is asked for under a veil. -/
theorem askSession_veiled {request : Request} (noBytes : request.veiled = request)
    (s : Service) :
    askSession o request s.veiled =
      ((askSession o request s).1, (askSession o request s).2.veiled) := by
  have asked := ask_veiled o request s
  rw [noBytes] at asked
  rw [askSession, asked, askSession]
  cases ask o request s with
  | mk outcome s₁ => cases outcome <;> rfl

/-- A chunk is sent under a veil. -/
theorem upload_veiled (o : ServiceOptions) (t : Transmission) (s : Service) :
    upload o { t with data := veil t.data } s.veiled =
      ((upload o t s).1, (upload o t s).2.veiled) := by
  have asked := ask_veiled o (.upload t) s
  change ask o (.upload { t with data := veil t.data }) s.veiled = _ at asked
  rw [upload, asked, upload]
  cases ask o (.upload t) s with
  | mk outcome s₁ => cases outcome <;> rfl

end Service

/-! ### Channels -/

namespace Channel

variable {ch ch' : Channel} {final : Bool} {s s' : Service}

/-- The buffered bytes are sent under a veil. -/
theorem transmit_veiled {result : Except Failure Unit} (h : ch.transmit final s = (result, s')) :
    ch.veiled.transmit final s.veiled = (result, s'.veiled) := by
  have handle := Service.requestHandle_veiled ch.options
    (s.note (.sendingChunk ch.blob.id ch.position ch.buffer.limit final))
  have chunk :
      ch.veiled.chunk final = { ch.chunk final with data := veil (ch.chunk final).data } := by
    simp only [Channel.chunk, veiled, ChunkBuffer.contents_veiled, ChunkBuffer.limit_veiled]
  have noted : s.veiled.note (.sendingChunk ch.veiled.blob.id ch.veiled.position
      ch.veiled.buffer.limit final) =
        (s.note (.sendingChunk ch.blob.id ch.position ch.buffer.limit final)).veiled := rfl
  have options : ch.veiled.options = ch.options := rfl
  rw [transmit] at h ⊢
  rw [noted, chunk, options, handle]
  split at h
  next f s₁ eq =>
    simp only [Prod.mk.injEq] at h
    obtain ⟨rfl, rfl⟩ := h
    rw [eq]
  next s₁ eq =>
    rw [eq]
    change Service.upload ch.options _ s₁.veiled = _
    rw [Service.upload_veiled, h]

/-- Advancing under a veil. -/
theorem advance_veiled (ch : Channel) : ch.veiled.advance = ch.advance.veiled := rfl

/-- Bytes are written under a veil. -/
theorem fill_veiled [Memory] {data : ByteArray} {offset : Nat} {result : Except Failure Nat}
    (h : ch.fill data offset s = (result, ch', s')) :
    ch.veiled.fill (veil data) offset s.veiled = (result, ch'.veiled, s'.veiled) := by
  fun_induction fill ch data offset s with
  | case1 ch offset s full f s₁ eq =>
    simp only [Prod.mk.injEq] at h
    obtain ⟨rfl, rfl, rfl⟩ := h
    rw [fill, if_pos (by exact full), transmit_veiled eq]
  | case2 ch offset s full s₁ eq ih =>
    rw [fill, if_pos (by exact full), transmit_veiled eq]
    exact ih h
  | case3 ch offset s small rest shortage eq =>
    simp only [Prod.mk.injEq] at h
    obtain ⟨rfl, rfl, rfl⟩ := h
    have failed : ch.veiled.buffer.allocate ch.veiled.chunkSize.bytes = .error shortage := by
      change ch.buffer.veiled.allocate ch.chunkSize.bytes = _
      rw [ChunkBuffer.allocate_veiled, eq]
      rfl
    rw [fill, if_neg (by exact small), if_pos (by rw [size_veil]; exact rest), failed]
  | case4 ch offset s small rest buffer eq count ih =>
    have allocated : ch.veiled.buffer.allocate ch.veiled.chunkSize.bytes = .ok buffer.veiled := by
      change ch.buffer.veiled.allocate ch.chunkSize.bytes = _
      rw [ChunkBuffer.allocate_veiled, eq]
      rfl
    have room : ch.veiled.room (veil data) offset = ch.room data offset := by
      simp only [Channel.room, size_veil]
      rfl
    rw [fill, if_neg (by exact small), if_pos (by rw [size_veil]; exact rest), allocated]
    simp only [room]
    rw [ChunkBuffer.take_veiled]
    exact ih h
  | case5 ch offset s small done =>
    simp only [Prod.mk.injEq] at h
    obtain ⟨rfl, rfl, rfl⟩ := h
    rw [fill, if_neg (by exact small), if_neg (by rw [size_veil]; exact done)]

/-- A flush under a veil. -/
theorem flush_veiled {result : Except Failure Unit} (h : ch.flush final s = (result, ch', s')) :
    ch.veiled.flush final s.veiled = (result, ch'.veiled, s'.veiled) := by
  rw [flush] at h ⊢
  split at h
  next f s₁ eq =>
    simp only [Prod.mk.injEq] at h
    obtain ⟨rfl, rfl, rfl⟩ := h
    rw [transmit_veiled eq]
  next s₁ eq =>
    simp only [Prod.mk.injEq] at h
    obtain ⟨rfl, rfl, rfl⟩ := h
    rw [transmit_veiled eq, advance_veiled]

/-- A payload is written under a veil. -/
theorem write_veiled [Memory] {payload : Payload} {result : Except Failure Nat}
    (h : ch.write payload s = (result, ch', s')) :
    ch.veiled.write payload.veiled s.veiled = (result, ch'.veiled, s'.veiled) := by
  have isOpen : ch.veiled.isOpen = ch.isOpen := rfl
  unfold write at h ⊢
  rw [isOpen]
  cases open? : ch.isOpen with
  | false =>
    simp only [open?, Bool.not_false, if_true, Prod.mk.injEq] at h ⊢
    obtain ⟨rfl, rfl, rfl⟩ := h
    exact ⟨rfl, rfl, rfl⟩
  | true =>
    simp only [open?, Bool.not_true, Bool.false_eq_true, if_false] at h ⊢
    cases payload with
    | bytes data => exact fill_veiled h
    | noBytes typeName =>
      simp only [Prod.mk.injEq] at h
      obtain ⟨rfl, rfl, rfl⟩ := h
      rfl
    | scattered =>
      simp only [Prod.mk.injEq] at h
      obtain ⟨rfl, rfl, rfl⟩ := h
      rfl

/-- A channel is closed under a veil. -/
theorem close_veiled {result : Except Failure Unit} (h : ch.close s = (result, ch', s')) :
    ch.veiled.close s.veiled = (result, ch'.veiled, s'.veiled) := by
  have isOpen : ch.veiled.isOpen = ch.isOpen := rfl
  rw [close] at h ⊢
  rw [isOpen]
  cases open? : ch.isOpen with
  | false =>
    simp only [open?, Bool.not_false, if_true, Prod.mk.injEq] at h ⊢
    obtain ⟨rfl, rfl, rfl⟩ := h
    exact ⟨rfl, rfl, rfl⟩
  | true =>
    simp only [open?, Bool.not_true, Bool.false_eq_true, if_false] at h ⊢
    split at h
    next f ch₁ s₁ eq =>
      simp only [Prod.mk.injEq] at h
      obtain ⟨rfl, rfl, rfl⟩ := h
      rw [flush_veiled eq]
    next ch₁ s₁ eq =>
      simp only [Prod.mk.injEq] at h
      obtain ⟨rfl, rfl, rfl⟩ := h
      rw [flush_veiled eq]
      rfl

/-- The chunk size is set under a veil. -/
theorem setChunkSize_veiled (ch : Channel) (size : Value) :
    ch.veiled.setChunkSize size = (ch.setChunkSize size).map veiled := by
  have isOpen : ch.veiled.isOpen = ch.isOpen := rfl
  have position : ch.veiled.position = ch.position := rfl
  have limit : ch.veiled.buffer.limit = ch.buffer.limit := rfl
  rw [setChunkSize, setChunkSize, isOpen, position, limit]
  split
  · rfl
  · split
    · rfl
    · cases ChunkSize.validate size <;> rfl

/-- An operation under a veil. -/
theorem perform_veiled [Memory] {op : Operation} {result : Except Failure Reply}
    (h : ch.perform op s = (result, ch', s')) :
    ch.veiled.perform op.veiled s.veiled = (result, ch'.veiled, s'.veiled) := by
  cases op with
  | write payload =>
    rcases wrote : ch.write payload s with ⟨r, ch₁, s₁⟩
    simp only [perform, wrote, Prod.mk.injEq] at h
    obtain ⟨rfl, rfl, rfl⟩ := h
    simp only [Operation.veiled, perform, write_veiled wrote]
  | flush final =>
    rcases flushed : ch.flush final s with ⟨r, ch₁, s₁⟩
    simp only [perform, flushed, Prod.mk.injEq] at h
    obtain ⟨rfl, rfl, rfl⟩ := h
    simp only [Operation.veiled, perform, flush_veiled flushed]
  | close =>
    rcases closed : ch.close s with ⟨r, ch₁, s₁⟩
    simp only [perform, closed, Prod.mk.injEq] at h
    obtain ⟨rfl, rfl, rfl⟩ := h
    simp only [Operation.veiled, perform, close_veiled closed]
  | setChunkSize size =>
    simp only [Operation.veiled, perform, setChunkSize_veiled] at h ⊢
    cases set : ch.setChunkSize size with
    | error f =>
      simp only [set, Prod.mk.injEq] at h
      obtain ⟨rfl, rfl, rfl⟩ := h
      rfl
    | ok ch₁ =>
      simp only [set, Prod.mk.injEq] at h
      obtain ⟨rfl, rfl, rfl⟩ := h
      rfl
  | leave failed =>
    cases failed with
    | true =>
      simp only [perform, leave, if_true, Prod.mk.injEq] at h
      obtain ⟨rfl, rfl, rfl⟩ := h
      rfl
    | false =>
      rcases closed : ch.close s with ⟨r, ch₁, s₁⟩
      simp only [perform, leave, Bool.false_eq_true, if_false, closed, Prod.mk.injEq] at h
      obtain ⟨rfl, rfl, rfl⟩ := h
      simp only [Operation.veiled, perform, leave, Bool.false_eq_true, if_false,
        close_veiled closed]

/-! ### New channels -/

/-- The buffer that a channel begins with, under a veil. -/
theorem initialBuffer_veiled [Memory] (chunkSize : ChunkSize) (buffered : Option ByteArray)
    (isOpen : Bool) :
    initialBuffer chunkSize (buffered.map veil) isOpen =
      (initialBuffer chunkSize buffered isOpen).map ChunkBuffer.veiled := by
  cases buffered with
  | none => rfl
  | some data =>
    have allocated := ChunkBuffer.allocate_veiled chunkSize.bytes .released
    change ChunkBuffer.released.allocate chunkSize.bytes = _ at allocated
    have isEmpty : (veil data).isEmpty = data.isEmpty := by
      rw [ByteArray.isEmpty, ByteArray.isEmpty, size_veil]
    simp only [initialBuffer, Option.map_some, isEmpty, size_veil]
    by_cases idle : (data.isEmpty || !isOpen) = true
    · simp only [if_pos idle]
      rfl
    · by_cases large : chunkSize.bytes < data.size
      · simp only [if_neg idle, if_pos large]
        rfl
      · simp only [if_neg idle, if_neg large]
        cases eq : ChunkBuffer.released.allocate chunkSize.bytes with
        | error shortage => rfl
        | ok buffer =>
          rw [eq] at allocated
          have same : buffer.veiled = buffer := (Except.ok.inj allocated).symm
          have taken := ChunkBuffer.take_veiled data 0 data.size buffer
          rw [same] at taken
          simp only [taken, Except.map]

/-- A channel is made under a veil. -/
theorem make_veiled [Memory] (options : ServiceOptions) (blob : Blob) (uploadId : String)
    (chunkSize : Value) (position : Int) (buffered : Option ByteArray) (isOpen : Bool) :
    make options blob uploadId chunkSize position (buffered.map veil) isOpen =
      (make options blob uploadId chunkSize position buffered isOpen).map veiled := by
  rw [make, make]
  cases ChunkSize.validate chunkSize with
  | error fault => rfl
  | ok size =>
    simp only [initialBuffer_veiled]
    split
    · rfl
    · cases initialBuffer size buffered isOpen <;> rfl

/-- The chunk size is settled without any bytes. -/
theorem settleChunkSize_veiled (requested : Value) (s : Service) :
    settleChunkSize requested s.veiled =
      ((settleChunkSize requested s).1, (settleChunkSize requested s).2.veiled) := by
  have environment : s.veiled.environment = s.environment := rfl
  unfold settleChunkSize
  split
  · rw [environment]
    split <;> rfl
  · split <;> rfl

/-- Attempts under a veil: whatever comes of them, the service is veiled. -/
theorem attempt_veiled {α : Type} (description : String)
    {operation : Service → Except Failure α × Service}
    (blind : ∀ s, operation s.veiled = ((operation s).1, (operation s).2.veiled)) (left : Nat)
    (s : Service) :
    Retry.attempt Service.note description operation left s.veiled =
      ((Retry.attempt Service.note description operation left s).1,
        (Retry.attempt Service.note description operation left s).2.veiled) := by
  induction left generalizing s with
  | zero =>
    rw [Retry.attempt, Retry.attempt, blind]
    rcases operation s with ⟨_ | _, s₁⟩ <;> rfl
  | succ left ih =>
    rw [Retry.attempt, Retry.attempt, blind]
    rcases operation s with ⟨f | a, s₁⟩
    · dsimp only
      split
      · exact ih (s₁.note (Retry.announce description left f))
      · rfl
    · rfl

/-- A session is opened and announced under a veil. -/
theorem announce_veiled {options : ServiceOptions} {blob : Blob} {chunkSize : ChunkSize}
    {event : String → String → Event} {description : String} {request : Request}
    (noBytes : request.veiled = request) (s : Service) {result : Except Problem Channel}
    (h : announce options blob chunkSize event
      (connect options description (Service.askSession options request) s) = (result, s')) :
    announce options blob chunkSize event
        (connect options description (Service.askSession options request) s.veiled) =
      (result.map veiled, s'.veiled) := by
  have attempts := attempt_veiled description (Service.askSession_veiled (o := options) noBytes)
    Retry.repetitions
  rw [connect] at h ⊢
  rw [Service.requestHandle_veiled]
  rcases handle : Service.requestHandle options s with ⟨f | _, s₁⟩
  · simp only [handle, announce, Prod.mk.injEq] at h
    obtain ⟨rfl, rfl⟩ := h
    rfl
  · simp only [handle, Retry.run] at h ⊢
    rw [attempts]
    rcases asked : Retry.attempt Service.note description (Service.askSession options request)
      Retry.repetitions s₁ with ⟨f | uploadId, s₂⟩
    · simp only [asked, announce, Prod.mk.injEq] at h
      obtain ⟨rfl, rfl⟩ := h
      rfl
    · simp only [asked, announce, Prod.mk.injEq] at h
      obtain ⟨rfl, rfl⟩ := h
      rfl

end Channel

/-- A channel is created under a veil. -/
theorem Origin.create_veiled [Memory] {origin : Origin} {s s' : Service}
    {result : Except Problem Channel} (h : origin.create s = (result, s')) :
    origin.veiled.create s.veiled = (result.map Channel.veiled, s'.veiled) := by
  cases origin with
  | made options blob uploadId chunkSize position buffered isOpen =>
    obtain ⟨rfl, rfl⟩ := Prod.mk.inj h
    simp only [Origin.veiled, create, Channel.make_veiled]
    cases Channel.make options blob uploadId chunkSize position buffered isOpen <;> rfl
  | restored snapshot =>
    obtain ⟨rfl, rfl⟩ := Prod.mk.inj h
    have counted : ((snapshot.buffer.map veil).map ByteArray.size).getD 0 =
        (snapshot.buffer.map ByteArray.size).getD 0 := by
      cases snapshot.buffer with
      | none => rfl
      | some bytes => exact size_veil bytes
    simp only [Origin.veiled, create, Snapshot.restore, Snapshot.veiled, Channel.make_veiled,
      counted]
    cases Channel.make snapshot.options snapshot.blob snapshot.uploadId
      (.int snapshot.chunkSize.bytes) snapshot.position snapshot.buffer snapshot.isOpen <;> rfl
  | opened options blob session requested =>
    simp only [Origin.veiled, create, Channel.openBlob] at h ⊢
    rw [Channel.settleChunkSize_veiled]
    rcases settled : Channel.settleChunkSize requested s with ⟨problem | size, s₁⟩
    · simp only [settled, Prod.mk.injEq] at h
      obtain ⟨rfl, rfl⟩ := h
      rfl
    · simp only [settled] at h
      exact Channel.announce_veiled rfl s₁ h
  | openedSigned options url requested =>
    simp only [Origin.veiled, create, Channel.openSigned_eq] at h ⊢
    rw [Channel.settleChunkSize_veiled]
    rcases settled : Channel.settleChunkSize requested s with ⟨problem | size, s₁⟩
    · simp only [settled, Prod.mk.injEq] at h
      obtain ⟨rfl, rfl⟩ := h
      rfl
    · cases named : SignedUrl.blob url with
      | error fault =>
        simp only [settled, named, Prod.mk.injEq] at h
        obtain ⟨rfl, rfl⟩ := h
        rfl
      | ok blob =>
        simp only [settled, named] at h
        exact Channel.announce_veiled rfl s₁ h

end ResumableUpload
