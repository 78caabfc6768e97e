import ResumableUpload.Json.Document
import ResumableUpload.Json.Writer
import ResumableUpload.Snapshot.Basic

/-!
# Snapshots as JSON

A snapshot is written as one JSON object for another process. Its options are left out; who reads
the document supplies options of its own, whatever the document says about them. Buffered bytes are
written in base64.

## Main definitions

* `Snapshot.toJson` — the document of a snapshot.
* `Snapshot.ofJson`, `Snapshot.ofJsonBytes` — the snapshot of a document, given as text or as UTF-8.
-/

namespace ResumableUpload.Snapshot

/-- A blob as a JSON object. -/
def writeBlob (b : Blob) : String :=
  Json.writeObject
    [("bucket", Json.writeText b.bucket), ("name", Json.writeText b.name),
     ("content_type", Json.writeOptionalText b.contentType),
     ("generation", Json.writeOptionalInt b.generation)]

/-- The document of a snapshot: `to_json`. -/
def toJson (s : Snapshot) : String :=
  Json.writeObject
    [("blob_info", writeBlob s.blob), ("upload_id", Json.writeText s.uploadId),
     ("chunk_size", Json.writeOptionalInt (some (s.chunkSize.bytes : Int))),
     ("buffer", Json.writeOptionalText (s.buffer.map Base64.encode)),
     ("position", Json.writeOptionalInt (some (s.position : Int))),
     ("is_open", Json.writeBool s.isOpen)]

/-- What is still read of a document: values in up to 200 containers, and integers of up to
`maxDigits` digits. -/
def limits : Json.Limits := ⟨200, maxDigits⟩

/-- The snapshot that a document describes, bound to the given options. -/
def ofDocument (options : ServiceOptions) : Option Value → Except Report Snapshot
  | none => .error (.single .wellFormed)
  | some (.object members) => ofFields (some options) none members
  | some _ => .error (.single .document)

/-- The snapshot of a document given as text: `from_json`. -/
def ofJson (options : ServiceOptions) (document : String) : Except Report Snapshot :=
  ofDocument options (Json.read limits document)

/-- The snapshot of a document given in UTF-8: `from_json` of bytes. -/
def ofJsonBytes (options : ServiceOptions) (document : ByteArray) : Except Report Snapshot :=
  ofDocument options ((String.fromUTF8? document).bind (Json.read limits))

end ResumableUpload.Snapshot
