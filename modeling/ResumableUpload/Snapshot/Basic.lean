import ResumableUpload.Channel.Basic
import ResumableUpload.Field

/-!
# Snapshots

A **snapshot** is the state of a channel as a value: it can be compared and shown, kept, and turned
into a channel that continues the same session. Snapshots are read from named values like other
models; one rule concerns two fields at once: the buffered bytes fit one chunk.

## Main definitions

* `Snapshot`, `Snapshot.ofFields` — a snapshot, and its reader.
* `Snapshot.IsValid` — what holds of every snapshot that is read.
* `Snapshot.capture`, `Snapshot.restore` — from a channel, and back to one.
* `Snapshot.agrees` — equality.
* `Snapshot.literal`, `Snapshot.summary` — the forms in which messages show it.
-/

namespace ResumableUpload

/-- The state of a channel: `WriteChannelState`. -/
structure Snapshot where
  /-- The options of the service that holds the session. -/
  options : ServiceOptions
  /-- The target of the upload. -/
  blob : Blob
  /-- The session. -/
  uploadId : String
  /-- The size of the chunks. -/
  chunkSize : ChunkSize
  /-- The bytes written and not accepted yet; a closed channel has none. -/
  buffer : Option ByteArray
  /-- The number of bytes accepted. -/
  position : Nat
  /-- Whether more bytes may be written. -/
  isOpen : Bool
deriving DecidableEq, Inhabited

/-- What holds of every snapshot that is read from values: the session has an identifier, and the
buffered bytes fit one chunk. -/
structure Snapshot.IsValid (s : Snapshot) : Prop where
  /-- The blob is valid. -/
  blob : s.blob.IsValid
  /-- The session has an identifier. -/
  uploadId_ne : s.uploadId ≠ ""
  /-- The buffered bytes fit one chunk. -/
  fits : ∀ bytes, s.buffer = some bytes → bytes.size ≤ s.chunkSize.bytes

namespace Snapshot

/-! ### Reading -/

/-- A field that is a model of its own: given directly, or described by an object. -/
def model {α : Type} (fields : Fields) (name typeName : String) (given : Option α)
    (read : Fields → Except Report α) : Except Report α :=
  match given with
  | some a => .ok a
  | none =>
    match fields.lookup name with
    | none => .error [⟨[name], .present⟩]
    | some (.object members) => (read members).mapError (Report.inside name)
    | some _ => .error [⟨[name], .model typeName⟩]

/-- A snapshot whose buffered bytes fit one chunk: `_check_buffer_fits`. -/
def checkFits (s : Snapshot) : Except Report Snapshot :=
  match s.buffer with
  | none => .ok s
  | some bytes =>
    if s.chunkSize.bytes < bytes.size then
      .error (.single (.fits ⟨bytes.size, s.chunkSize.bytes⟩))
    else .ok s

/-- The snapshot described by named values, as `WriteChannelState` is validated. Options and blob
may also be given directly, which is the only way to give options that can create a handle. -/
def ofFields (options : Option ServiceOptions) (blob : Option Blob) (fields : Fields) :
    Except Report Snapshot :=
  let options := model fields "options" "StorageOptions" options (ServiceOptions.ofFields 0 none)
  let blob := model fields "blob_info" "BlobInfo" blob Blob.ofFields
  let uploadId := Field.required fields "upload_id" (Field.notEmpty Field.text)
  let chunkSize := Field.required fields "chunk_size" Field.chunkSize
  let buffer := Field.optional fields "buffer" none (Field.nullable Field.bytes)
  let position := Field.optional fields "position" 0 (Field.notNegative Field.integer)
  let isOpen := Field.optional fields "is_open" true Field.truth
  match both (both options blob)
      (both (both uploadId chunkSize) (both buffer (both position isOpen))) with
  | .error report => .error report
  | .ok ((options, blob), ((uploadId, chunkSize), (buffer, (position, isOpen)))) =>
    checkFits ⟨options, blob, uploadId, chunkSize, buffer, position, isOpen⟩

/-! ### Capturing and restoring -/

/-- The state of a channel as named values, options and blob aside. -/
def fieldsOf (ch : Channel) : Fields :=
  [("upload_id", .text ch.uploadId), ("chunk_size", .int ch.chunkSize.bytes),
   ("buffer", if ch.isOpen then .bytes ch.buffer.contents else .null),
   ("position", .int ch.position), ("is_open", .bool ch.isOpen)]

/-- The state of a channel: `capture`. It is read like any snapshot, so that a session without an
identifier has none. -/
def capture (ch : Channel) : Except Report Snapshot :=
  ofFields (some ch.options) (some ch.blob) (fieldsOf ch)

variable [Memory]

/-- A channel in the captured state, which is told by an event: `WriteChannelState.restore`. -/
def restore (snapshot : Snapshot) (s : Service) : Except Failure Channel × Service :=
  let buffered := (snapshot.buffer.map ByteArray.size).getD 0
  (Channel.make snapshot.options snapshot.blob snapshot.uploadId (.int snapshot.chunkSize.bytes)
      snapshot.position snapshot.buffer snapshot.isOpen,
    s.note (.restoring snapshot.blob.id snapshot.position buffered snapshot.isOpen))

/-! ### Comparing and showing -/

/-- Whether two snapshots say the same. -/
def agrees (a b : Snapshot) : Bool :=
  a.options.agrees b.options && a.blob = b.blob && a.uploadId = b.uploadId &&
    a.chunkSize = b.chunkSize && a.buffer = b.buffer && a.position = b.position &&
    a.isOpen = b.isOpen

/-- The shown form of the buffered bytes, which tells their number only. -/
def bufferLiteral : Option ByteArray → String
  | none => Value.null.literal
  | some bytes => (Value.text s!"<{bytes.size} bytes>").literal

/-- The fields with their shown forms: `__repr_args__`. -/
def shownFields (s : Snapshot) : List String :=
  [s!"options={s.options.literal}", s!"blob_info={s.blob.literal}",
   s!"upload_id={(Value.text s.uploadId).literal}", s!"chunk_size={s.chunkSize.bytes}",
   s!"buffer={bufferLiteral s.buffer}", s!"position={s.position}",
   s!"is_open={Value.boolText s.isOpen}"]

/-- Whether the snapshot can be shown: every integer in it has few enough digits. -/
def isWritable (s : Snapshot) : Bool :=
  !tooManyDigits s.chunkSize.bytes && !tooManyDigits s.position &&
    (Value.optionalInt s.blob.generation).isWritable

/-- The form in which messages show the snapshot. -/
def literal (s : Snapshot) : String :=
  "WriteChannelState(" ++ ", ".intercalate s.shownFields ++ ")"

/-- The fields as messages show them. -/
def summary (s : Snapshot) : String := " ".intercalate s.shownFields

omit [Memory] in
/-- A snapshot says the same as itself. -/
@[simp] theorem agrees_self (s : Snapshot) : s.agrees s = true := by simp [agrees]

end Snapshot

end ResumableUpload
