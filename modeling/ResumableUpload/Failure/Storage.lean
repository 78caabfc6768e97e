import ResumableUpload.Failure.External

/-!
# Storage faults

The faults that this library raises itself say what is wrong, may carry a status code, and may be
flagged as transient.

## Main definitions

* `StorageKind`, `StorageFault` — the kinds of storage faults, and the faults.
* `StorageFault.raise`, `StorageFault.closed` — a fault with what it says, and the one of a closed
  channel.
* `isTransientStatus` — whether a status says that the request may be made again.
-/

namespace ResumableUpload

/-- The kinds of storage faults. -/
inductive StorageKind where
  /-- Any storage fault: `StorageError`. -/
  | general
  /-- The channel is closed: `ClosedChannelError`. -/
  | closedChannel
  /-- A chunk size or a buffer breaks the rules of the upload: `InvalidChunkSizeError`. -/
  | invalidChunkSize
  /-- A kind that is declared elsewhere as a special case of a storage fault, perhaps of the one of
  a closed channel, and perhaps of known kinds from outside. -/
  | declared (name : String) (closed : Bool) (parents : List KnownKind)
deriving DecidableEq, Repr

namespace StorageKind

/-- The name of a kind. -/
def name : StorageKind → String
  | general => "StorageError"
  | closedChannel => "ClosedChannelError"
  | invalidChunkSize => "InvalidChunkSizeError"
  | declared name _ _ => name

/-- The kind of a name. -/
def ofName? (s : String) : Option StorageKind :=
  [general, closedChannel, invalidChunkSize].find? (·.name = s)

/-- Whether a fault of the kind is that of a closed channel. -/
def isClosed : StorageKind → Bool
  | closedChannel => true
  | declared _ closed _ => closed
  | _ => false

/-- The known kinds from outside of which a kind is also a special case. An invalid chunk size is an
invalid value. -/
def parents : StorageKind → List KnownKind
  | invalidChunkSize => [.program .invalidValue]
  | declared _ _ parents => parents
  | _ => []

end StorageKind

/-- Whether a status says that the same request may succeed when it is made again: it is one of
`RETRYABLE_STATUS_CODES`. -/
def isTransientStatus (status : Int) : Bool := status ∈ [429, 500, 502, 503, 504]

/-- A storage fault. -/
structure StorageFault where
  /-- What kind of fault it is. -/
  kind : StorageKind
  /-- What it says. -/
  detail : Argument
  /-- The status code that the storage reported. -/
  code : Option Int
  /-- Whether it is flagged as transient. -/
  retryable : Bool
deriving DecidableEq, Repr

namespace StorageFault

/-- What a fault says when it is given nothing to say: `DEFAULT_MESSAGE`. -/
def defaultMessage : String := "Storage operation failed"

/-- The fault with what it says, as `StorageError` is built; a void detail is replaced by a general
text. -/
def raise (kind : StorageKind) (detail : Argument) (code : Option Int) (retryable : Bool) :
    StorageFault :=
  ⟨kind, if detail.isVoid then .text defaultMessage else detail, code, retryable⟩

/-- A storage fault without code or flag. -/
def plain (kind : StorageKind) (message : String) : StorageFault :=
  raise kind (.text message) none false

/-- The fault of a channel that is used after it was closed: `ClosedChannelError` without words. -/
def closed : StorageFault := plain .closedChannel "Write channel is closed"

/-- What the fault says. -/
def message (f : StorageFault) : String := f.detail.display

/-- The form in which messages show the fault. -/
def literal (f : StorageFault) : String := f.kind.name ++ "(" ++ f.detail.literal ++ ")"

/-- Whether flag or code say that the fault is transient. -/
def isFlagged (f : StorageFault) : Bool :=
  f.retryable || (match f.code with
    | none => false
    | some code => isTransientStatus code)

end StorageFault

end ResumableUpload
