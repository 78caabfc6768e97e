import ResumableUpload.Channel.Buffer
import ResumableUpload.ChunkSize
import ResumableUpload.Service.Basic

/-!
# Channels

A **channel** sends an object to an upload session chunk by chunk. Bytes that are written collect in
the chunk buffer; whenever it is full it is sent as one chunk that does not end the object, and
closing the channel sends what is left as the final chunk. The position counts the bytes that the
storage has accepted: it moves, and the buffer empties, only when a chunk has gone through. So after
a failure the channel still holds the bytes that were not accepted.

## Main definitions

* `Channel`, `Channel.make` — a channel, and the one with given contents.
* `Channel.transmit`, `Channel.advance` — sending the buffered bytes, and the channel after that.
* `Channel.write`, `Channel.flush`, `Channel.close`, `Channel.leave`, `Channel.setChunkSize` — the
  operations; those that send are functions of the service, too.
-/

namespace ResumableUpload

/-- A channel to an upload session: `BlobWriteChannel`, with the fields of `BaseWriteChannel`. -/
structure Channel where
  /-- The options of the service that holds the session. -/
  options : ServiceOptions
  /-- The target of the upload. -/
  blob : Blob
  /-- The session. -/
  uploadId : String
  /-- The size of the chunks. -/
  chunkSize : ChunkSize
  /-- The number of bytes accepted. -/
  position : Nat
  /-- The bytes written and not accepted yet. -/
  buffer : ChunkBuffer
  /-- Whether more bytes may be written. -/
  isOpen : Bool
deriving DecidableEq, Inhabited

/-- What is offered to be written. -/
inductive Payload where
  /-- Bytes. -/
  | bytes (data : ByteArray)
  /-- A value of a type that holds no bytes. -/
  | noBytes (typeName : String)
  /-- Bytes that do not lie side by side. -/
  | scattered

namespace Channel

/-! ### Making a channel -/

/-- The failure of a buffer that cannot be allocated. -/
def shortageFailure : Shortage → Failure
  | .addresses => .outOfRange "cannot fit 'int' into an index-sized integer"
  | .memory => .noMemory

/-- A channel with nothing buffered and nothing accepted. -/
def fresh (options : ServiceOptions) (blob : Blob) (uploadId : String) (chunkSize : ChunkSize) :
    Channel :=
  ⟨options, blob, uploadId, chunkSize, 0, .released, true⟩

/-- The buffer that a channel begins with. A closed channel has no use for buffered bytes. -/
def initialBuffer [Memory] (chunkSize : ChunkSize) (buffered : Option ByteArray) (isOpen : Bool) :
    Except Failure ChunkBuffer :=
  match buffered with
  | none => .ok .released
  | some data =>
    if data.isEmpty || !isOpen then .ok .released
    else if chunkSize.bytes < data.size then
      .error (.storage .invalidChunkSize (ChunkSize.Overfull.message ⟨data.size, chunkSize.bytes⟩))
    else
      match ChunkBuffer.released.allocate chunkSize.bytes with
      | .error shortage => .error (shortageFailure shortage)
      | .ok buffer => .ok (buffer.take data 0 data.size)

/-- The channel with given contents, as `BlobWriteChannel` is built. A full chunk of buffered bytes
is allowed. -/
def make [Memory] (options : ServiceOptions) (blob : Blob) (uploadId : String) (chunkSize : Value)
    (position : Int) (buffered : Option ByteArray) (isOpen : Bool) : Except Failure Channel :=
  match ChunkSize.validate chunkSize with
  | .error fault => .error (.chunkSize fault)
  | .ok chunkSize =>
    if position < 0 then
      .error (.invalidValue (showing position s!"Position must not be negative, got {position}"))
    else
      match initialBuffer chunkSize buffered isOpen with
      | .error f => .error f
      | .ok buffer => .ok ⟨options, blob, uploadId, chunkSize, position.toNat, buffer, isOpen⟩

/-! ### Sending chunks -/

/-- The chunk that the buffered bytes make up. -/
def chunk (ch : Channel) (final : Bool) : Transmission :=
  ⟨ch.uploadId, ch.buffer.contents, 0, ch.position, ch.buffer.limit, final⟩

/-- Sends the buffered bytes as one chunk: `flush_buffer`. -/
def transmit (ch : Channel) (final : Bool) (s : Service) : Except Failure Unit × Service :=
  match Service.requestHandle ch.options
      (s.note (.sendingChunk ch.blob.id ch.position ch.buffer.limit final)) with
  | (.error f, s) => (.error f, s)
  | (.ok (), s) => Service.upload ch.options (ch.chunk final) s

/-- The channel once its buffered bytes are accepted. -/
def advance (ch : Channel) : Channel :=
  { ch with position := ch.position + ch.buffer.limit, buffer := ch.buffer.clear }

/-- Sends the buffered bytes as one chunk and moves on when they are accepted: `flush`. -/
def flush (ch : Channel) (final : Bool) (s : Service) : Except Failure Unit × Channel × Service :=
  match ch.transmit final s with
  | (.error f, s) => (.error f, ch, s)
  | (.ok (), s) => (.ok (), ch.advance, s)

/-- An advanced channel has nothing buffered. -/
@[simp] theorem limit_advance (ch : Channel) : ch.advance.buffer.limit = 0 := rfl

/-- An advanced channel holds no bytes. -/
@[simp] theorem contents_advance (ch : Channel) : ch.advance.buffer.contents = .empty :=
  ch.buffer.contents_clear

/-- Advancing moves behind the bytes that were buffered. -/
@[simp] theorem position_advance (ch : Channel) :
    ch.advance.position = ch.position + ch.buffer.limit := rfl

/-- Advancing keeps the chunk size. -/
@[simp] theorem chunkSize_advance (ch : Channel) : ch.advance.chunkSize = ch.chunkSize := rfl

/-! ### Writing -/

variable [Memory]

/-- The number of bytes that the buffer takes from `data` at `offset`: what fits, or what is left.
-/
def room (ch : Channel) (data : ByteArray) (offset : Nat) : Nat :=
  min (ch.chunkSize.bytes - ch.buffer.limit) (data.size - offset)

/-- Writes the bytes of `data` from `offset` on: `write`, after its checks. A full buffer is sent
before anything else happens; then the buffer, which needs storage for that, takes what fits. The
result counts the bytes of `data` that are dealt with. -/
def fill (ch : Channel) (data : ByteArray) (offset : Nat) (s : Service) :
    Except Failure Nat × Channel × Service :=
  if ch.chunkSize.bytes ≤ ch.buffer.limit then
    match ch.transmit false s with
    | (.error f, s) => (.error f, ch, s)
    | (.ok (), s) => ch.advance.fill data offset s
  else if offset < data.size then
    match ch.buffer.allocate ch.chunkSize.bytes with
    | .error shortage => (.error (shortageFailure shortage), ch, s)
    | .ok buffer =>
      let count := ch.room data offset
      { ch with buffer := buffer.take data offset count }.fill data (offset + count) s
  else (.ok offset, ch, s)
termination_by (data.size - offset, ch.buffer.limit)
decreasing_by
  · have := ch.chunkSize.pos
    exact Prod.Lex.right _ (by simp only [limit_advance]; omega)
  · exact Prod.Lex.left _ _ (by simp only [room]; omega)

/-- Writes a payload: `write`. -/
def write (ch : Channel) (payload : Payload) (s : Service) :
    Except Failure Nat × Channel × Service :=
  if !ch.isOpen then (.error .closed, ch, s)
  else
    match payload with
    | .bytes data => ch.fill data 0 s
    | .noBytes typeName =>
      (.error (.wrongType s!"memoryview: a bytes-like object is required, not '{typeName}'"), ch, s)
    | .scattered =>
      (.error (.wrongType "memoryview: casts are restricted to C-contiguous views"), ch, s)

/-! ### The end of a channel -/

/-- The channel without buffer, closed to further bytes. -/
def shut (ch : Channel) : Channel := { ch with buffer := .released, isOpen := false }

/-- Sends the remaining bytes as the final chunk and closes the channel: `close`. A closed channel
stays as it is. -/
def close (ch : Channel) (s : Service) : Except Failure Unit × Channel × Service :=
  if !ch.isOpen then (.ok (), ch, s)
  else
    match ch.flush true s with
    | (.error f, ch, s) => (.error f, ch, s)
    | (.ok (), ch, s) =>
      (.ok (), ch.shut,
        s.noteAll [.channelClosed ch.position, .uploadFinalized ch.blob.id ch.position])

/-- Leaves the scope of a channel, which is closed unless the scope failed: `__exit__`. -/
def leave (ch : Channel) (failed : Bool) (s : Service) : Except Failure Unit × Channel × Service :=
  if failed then (.ok (), ch, s) else ch.close s

/-! ### The chunk size -/

/-- The channel with another chunk size, which only a channel that has seen no bytes may get: the
setter of `chunk_size`. -/
def setChunkSize (ch : Channel) (size : Value) : Except Failure Channel :=
  if !ch.isOpen then .error .closed
  else if ch.position ≠ 0 ∨ ch.buffer.limit ≠ 0 then
    .error (.storage .invalidChunkSize "Chunk size cannot change after data has been written")
  else
    match ChunkSize.validate size with
    | .error fault => .error (.chunkSize fault)
    | .ok chunkSize => .ok { ch with chunkSize := chunkSize, buffer := .released }

end Channel

end ResumableUpload
