import ResumableUpload.Channel.Basic
import ResumableUpload.Problem
import ResumableUpload.Retry
import ResumableUpload.SignedUrl

/-!
# Opening channels

A channel is opened for a blob, or for the blob that a signed address names. The chunk size is
settled first, then the blob; only then the storage is asked, for a handle and for a session. Asking
for the session is repeated once after a transient failure.

## Main definitions

* `Channel.settleChunkSize` — the chunk size asked for, or the configured one.
* `Channel.connect` — a handle and a session.
* `Channel.openBlob`, `Channel.openSigned` — the two ways to open a channel.
* `Channel.openPoints` — the second way, for an address that may hold lone surrogates.
-/

namespace ResumableUpload.Channel

/-- The chunk size asked for; if none is asked for, the one of the effective configuration:
`_resolve_chunk_size`. -/
def settleChunkSize (requested : Value) (s : Service) : Except Problem ChunkSize × Service :=
  match requested with
  | .null =>
    match Config.resolve s.environment {} [] with
    | (.ok config, events) => (.ok config.chunkSize, s.noteAll events)
    | (.error report, events) => (.error (.invalid report), s.noteAll events)
  | size =>
    match ChunkSize.validate size with
    | .ok chunkSize => (.ok chunkSize, s)
    | .error fault => (.error (.failure (.chunkSize fault)), s)

/-- Makes sure that there is a handle and asks for a session. -/
def connect (options : ServiceOptions) (description : String)
    (ask : Service → Except Failure String × Service) (s : Service) :
    Except Failure String × Service :=
  match Service.requestHandle options s with
  | (.error f, s) => (.error f, s)
  | (.ok (), s) => Retry.run Service.note description ask s

/-- The new channel of a session, which is told by an event. -/
def announce (options : ServiceOptions) (blob : Blob) (chunkSize : ChunkSize)
    (event : String → String → Event) :
    Except Failure String × Service → Except Problem Channel × Service
  | (.error f, s) => (.error (.failure f), s)
  | (.ok uploadId, s) =>
    (.ok (fresh options blob uploadId chunkSize), s.note (event blob.id uploadId))

/-- Opens a channel for a blob: `BlobWriteChannel.open`. -/
def openBlob (options : ServiceOptions) (blob : Blob) (session : SessionOptions)
    (requested : Value) (s : Service) : Except Problem Channel × Service :=
  match settleChunkSize requested s with
  | (.error problem, s) => (.error problem, s)
  | (.ok chunkSize, s) =>
    announce options blob chunkSize .sessionOpened <|
      connect options s!"open upload session for {blob.id}"
        (Service.openSession options blob session.wireParameters) s

/-- Opens a channel for the blob that a signed address names, or fails if it names none. The
session is asked for in the given way. -/
def openNamed (options : ServiceOptions) (named : Except Failure Blob)
    (ask : Service → Except Failure String × Service) (requested : Value) (s : Service) :
    Except Problem Channel × Service :=
  match settleChunkSize requested s with
  | (.error problem, s) => (.error problem, s)
  | (.ok chunkSize, s) =>
    match named with
    | .error f => (.error (.failure f), s)
    | .ok blob =>
      announce options blob chunkSize .signedSessionOpened <|
        connect options s!"open upload session from signed URL for {blob.id}" ask s

/-- The failure of an address that names no blob. -/
def addressFailure (fault : SignedUrl.Fault) : Failure :=
  (Failure.invalidValue fault.message).causing fault.message

/-- Opens a channel for the blob that a signed address names: `BlobWriteChannel.open_signed_url`. -/
def openSigned (options : ServiceOptions) (url : String) (requested : Value) (s : Service) :
    Except Problem Channel × Service :=
  openNamed options ((SignedUrl.blob url).mapError addressFailure)
    (Service.openSignedSession options url) requested s

/-- The chunk size is settled first, then the blob. -/
theorem openSigned_eq (options : ServiceOptions) (url : String) (requested : Value) (s : Service) :
    openSigned options url requested s =
      match settleChunkSize requested s with
      | (.error problem, s) => (.error problem, s)
      | (.ok chunkSize, s) =>
        match SignedUrl.blob url with
        | .error fault => (.error (.failure (addressFailure fault)), s)
        | .ok blob =>
          announce options blob chunkSize .signedSessionOpened <|
            connect options s!"open upload session from signed URL for {blob.id}"
              (Service.openSignedSession options url) s := by
  rw [openSigned, openNamed]
  cases SignedUrl.blob url <;> rfl

/-- The failure of points that name no blob as an address, with what is said about them. -/
def refusalFailure (shown : String) (refusal : SignedUrl.Refusal) : Failure :=
  (Failure.ofFault (.external ⟨refusal.kind, [.text shown], [], none⟩)).causing shown

/-- Opens a channel for the blob that points name as a signed address. What is said about them if
they name none is given, since it may show lone surrogates, and so is the way in which the session
is asked for. -/
def openPoints (options : ServiceOptions) (url : List Text.Point) (shown : String)
    (ask : Service → Except Failure String × Service) (requested : Value) (s : Service) :
    Except Problem Channel × Service :=
  openNamed options ((SignedUrl.blobOfPoints url).mapError (refusalFailure shown)) ask requested s

end ResumableUpload.Channel
