import ResumableUpload.Field

/-!
# Blobs

The target of an upload is a **blob**: a name in a bucket, with an optional content type and an
optional generation.

## Main definitions

* `Blob` — the target of an upload, with its `id` and its `literal`.
* `Blob.ofFields` — the blob described by named values.
* `Blob.IsValid` — what holds of every blob that is described by values.
-/

namespace ResumableUpload

/-- The target of an upload: `BlobInfo`. -/
structure Blob where
  /-- The bucket that holds the object. -/
  bucket : String
  /-- The name of the object in its bucket. -/
  name : String
  /-- The media type of the content. -/
  contentType : Option String
  /-- The generation of the object. -/
  generation : Option Int
deriving DecidableEq, Repr, Inhabited

/-- What holds of every blob that is read from values: bucket and name are not empty. -/
structure Blob.IsValid (b : Blob) : Prop where
  /-- There is a bucket. -/
  bucket_ne : b.bucket ≠ ""
  /-- There is a name. -/
  name_ne : b.name ≠ ""

namespace Blob

/-- Bucket and name in one text: `blob_id`. -/
def id (b : Blob) : String := b.bucket ++ "/" ++ b.name

/-- The form in which messages show the blob. -/
def literal (b : Blob) : String :=
  s!"BlobInfo(bucket={(Value.text b.bucket).literal}, name={(Value.text b.name).literal}, " ++
    s!"content_type={(Value.optionalText b.contentType).literal}, " ++
    s!"generation={(Value.optionalInt b.generation).literal})"

/-- The blob described by named values. Bucket and name are given and not empty; names that are no
fields are ignored. -/
def ofFields (fields : Fields) : Except Report Blob :=
  let bucket := Field.required fields "bucket" (Field.notEmpty Field.text)
  let name := Field.required fields "name" (Field.notEmpty Field.text)
  let contentType := Field.optional fields "content_type" none (Field.nullable Field.text)
  let generation := Field.optional fields "generation" none (Field.nullable Field.integer)
  match both (both bucket name) (both contentType generation) with
  | .error report => .error report
  | .ok ((bucket, name), (contentType, generation)) => .ok ⟨bucket, name, contentType, generation⟩

end Blob

end ResumableUpload
