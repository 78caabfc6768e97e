import ResumableUpload.Json.Insertion
import ResumableUpload.Snapshot.Json

/-!
# Documents from anywhere

A snapshot may be read of any text and of any bytes, wherever they come from. What does not describe
one is refused with a report; this names members of the document, which has six, or the document as
a whole. What stands under other names is not looked at.

## Main definitions

* `Snapshot.Payload`, `Payload.load` — what a snapshot is read of, and what is read of it.
* `Snapshot.memberNames` — the members that are looked at.
* `Report.IsAt` — a report on values of these names.
-/

namespace ResumableUpload

/-- The report tells something, and only of values under these names or of the whole. -/
structure Report.IsAt (names : List String) (report : Report) : Prop where
  /-- Something is reported. -/
  ne_nil : report ≠ []
  /-- It is reported of the whole, or of a value under one of the names. -/
  mem : ∀ v ∈ report, ∀ name, v.path.head? = some name → name ∈ names

namespace Snapshot

/-- The members of a document that are looked at. -/
def memberNames : List String :=
  ["blob_info", "upload_id", "chunk_size", "buffer", "position", "is_open"]

/-- Whether a member of a document is looked at. -/
def isMember (member : String × Value) : Bool := memberNames.contains member.1

/-- A document as it is handed over: a text, or bytes that ought to be UTF-8. -/
inductive Payload where
  /-- A text. -/
  | text (document : String)
  /-- Bytes. -/
  | bytes (document : ByteArray)

namespace Payload

/-- The JSON value that a payload is, if it is one. -/
def value? : Payload → Option Value
  | text document => Json.read limits document
  | bytes document => (String.fromUTF8? document).bind (Json.read limits)

/-- The snapshot that is read of a payload, bound to the given options. -/
def load (options : ServiceOptions) : Payload → Except Report Snapshot
  | text document => ofJson options document
  | bytes document => ofJsonBytes options document

end Payload

end Snapshot

end ResumableUpload
