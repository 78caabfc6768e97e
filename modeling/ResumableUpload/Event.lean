import ResumableUpload.Text.Quoted
import ResumableUpload.Value

/-!
# Events

What happens to channels and their services is told to an observer as a row of **events**. Each has
a level and a text.

## Main definitions

* `Level` — how much an event matters.
* `Event`, `Event.level`, `Event.message` — the events, and how they read.
-/

namespace ResumableUpload

/-- How much an event matters. -/
inductive Level where
  /-- A detail of the work. -/
  | debug
  /-- A step of an upload. -/
  | info
  /-- Something that went wrong and was dealt with. -/
  | warning
deriving DecidableEq, Repr

/-- The name of a level. -/
def Level.name : Level → String
  | debug => "DEBUG"
  | info => "INFO"
  | warning => "WARNING"

/-- Something that happened. Blobs are told by their identifiers. -/
inductive Event where
  /-- A handle of a storage service is about to be created. -/
  | creatingHandle (projectId : Option String)
  /-- A chunk is about to be sent. -/
  | sendingChunk (blob : String) (position bytes : Nat) (final : Bool)
  /-- A channel was closed. -/
  | channelClosed (position : Nat)
  /-- An upload is complete. -/
  | uploadFinalized (blob : String) (totalBytes : Nat)
  /-- A session was opened. -/
  | sessionOpened (blob uploadId : String)
  /-- A session was opened through a signed address. -/
  | signedSessionOpened (blob uploadId : String)
  /-- A channel is about to continue a captured session. -/
  | restoring (blob : String) (position buffered : Nat) (isOpen : Bool)
  /-- A setting of the environment cannot be read and is ignored. -/
  | settingIgnored (name value : String)
  /-- An attempt failed and another one follows. -/
  | retrying (description : String) (attempt attempts : Nat) (failure : String)
deriving DecidableEq, Repr

namespace Event

/-- The most characters of a session's identifier that an event shows: `LOG_UPLOAD_ID_MAX_CHARS`. -/
def shownIdentifier : Nat := 80

/-- The shown beginning of a session's identifier: `_short`. -/
def shorten (uploadId : String) : String :=
  if shownIdentifier < uploadId.length then
    String.ofList (uploadId.toList.take shownIdentifier) ++ "..."
  else uploadId

/-- How much the event matters. -/
def level : Event → Level
  | creatingHandle _ | sendingChunk .. | channelClosed _ => .debug
  | uploadFinalized .. | sessionOpened .. | signedSessionOpened .. | restoring .. => .info
  | settingIgnored .. | retrying .. => .warning

/-- How the event reads. -/
def message : Event → String
  | creatingHandle projectId => "Creating storage rpc: project_id=" ++ projectId.getD "None"
  | sendingChunk blob position bytes final =>
    s!"Upload chunk: blob={blob} position={position} bytes={bytes} final={Value.boolText final}"
  | channelClosed position => s!"Write channel closed at position {position}"
  | uploadFinalized blob totalBytes => s!"Upload finalized: blob={blob} total_bytes={totalBytes}"
  | sessionOpened blob uploadId =>
    s!"Opened upload session: blob={blob} upload_id={shorten uploadId}"
  | signedSessionOpened blob uploadId =>
    s!"Opened upload session from signed URL: blob={blob} upload_id={shorten uploadId}"
  | restoring blob position buffered isOpen =>
    s!"Restoring write channel: blob={blob} position={position} buffered={buffered} " ++
      s!"open={Value.boolText isOpen}"
  | settingIgnored name value => s!"Ignoring unparsable {name}={Text.quote value}"
  | retrying description attempt attempts failure =>
    s!"Failed to {description} (attempt {attempt}/{attempts}), retrying: {failure}"

/-- Whether the event tells of the creation of a handle. -/
def isCreatingHandle : Event → Bool
  | creatingHandle _ => true
  | _ => false

/-- Level and text in one line. -/
def line (e : Event) : String := e.level.name ++ " " ++ e.message

end Event

end ResumableUpload
