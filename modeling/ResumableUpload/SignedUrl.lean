import ResumableUpload.Blob
import ResumableUpload.Failure.Kind
import ResumableUpload.Text.Percent
import ResumableUpload.Url.Split

/-!
# Signed addresses

A signed address names its blob in its path: the bucket up to the first slash, the name of the
object after it. The signature stands in the query and plays no part here. An address that comes
from outside may hold lone surrogates; those in its bucket or name are refused when the blob is
made of them.

## Main definitions

* `SignedUrl.target?` — bucket and name as they stand in a path.
* `SignedUrl.blob` — the blob that a signed address names.
* `SignedUrl.Fault` — why an address names no blob, with its `message`.
* `SignedUrl.describe` — the blob of two parts of a path, which are checked.
* `SignedUrl.blobOfPoints` — the blob that points name as an address, with `SignedUrl.Refusal`.
-/

namespace ResumableUpload.SignedUrl

open Text (Letter Point)

/-- Why an address names no blob. -/
inductive Fault where
  /-- It cannot be taken apart. -/
  | address (fault : Url.UrlFault Char)
  /-- Its path does not have both a bucket and a name. -/
  | noObject (shown : String)
deriving DecidableEq, Repr

/-- What is said about the fault. -/
def Fault.message : Fault → String
  | .address fault => fault.message
  | .noObject shown => s!"Signed URL does not address an object: {shown}"

/-- Bucket and name as they stand in a path, leading slashes aside. Neither is empty, which is the
guard of `BlobInfo.from_signed_url`. -/
def target? {α : Type} [Letter α] (path : List α) : Option (List α × List α) :=
  let path := path.dropWhile (Letter.char · = '/')
  let bucket := path.takeWhile (Letter.char · ≠ '/')
  let name := (path.dropWhile (Letter.char · ≠ '/')).drop 1
  if bucket.isEmpty || name.isEmpty then none else some (bucket, name)

/-- The blob that a signed address names: `BlobInfo.from_signed_url`, for an address without lone
surrogates. -/
def blob (url : String) : Except Fault Blob :=
  match Url.path url.toList with
  | .error fault => .error (.address fault)
  | .ok path =>
    match target? path with
    | none => .error (.noObject (Text.quote url))
    | some (bucket, name) =>
      .ok ⟨String.ofList (Text.Percent.decodeChars bucket),
        String.ofList (Text.Percent.decodeChars name), none, none⟩

/-! ### Addresses with lone surrogates -/

/-- Why points name no blob. -/
inductive Refusal where
  /-- They cannot be taken apart. -/
  | address (fault : Url.UrlFault Point)
  /-- Their path does not have both a bucket and a name. -/
  | noObject
  /-- Bucket or name is not acceptable. -/
  | invalid (report : Report)
deriving DecidableEq, Repr

/-- The same fault of an address that holds no lone surrogates. -/
def Fault.refusal : Fault → Refusal
  | address fault => .address (fault.map .char)
  | noObject _ => .noObject

/-- The kind of the fault: it lies in a value, which may have been found by checking a model. -/
def Refusal.kind : Refusal → ExternalKind
  | address _ => .program .invalidValue
  | noObject => .program .invalidValue
  | invalid _ => .declared "ValidationError" [.program .invalidValue]

/-- The text that a part of a path stands for, checked as bucket and name of every blob are: for
lone surrogates, and for being empty. -/
def partText (part : List Point) : Except Rule String :=
  Field.notEmpty Field.textOfPoints (Text.Percent.decodePoints part)

/-- The blob whose bucket and name two parts of a path stand for, if they pass the checks. -/
def describe (bucket name : List Point) : Except Report Blob :=
  match both (Field.reportAt "bucket" (partText bucket))
      (Field.reportAt "name" (partText name)) with
  | .error report => .error report
  | .ok (bucket, name) => .ok ⟨bucket, name, none, none⟩

/-- The blob that points name as a signed address: `BlobInfo.from_signed_url`. -/
def blobOfPoints (url : List Point) : Except Refusal Blob :=
  match Url.path url with
  | .error fault => .error (.address fault)
  | .ok path =>
    match target? path with
    | none => .error .noObject
    | some (bucket, name) => (describe bucket name).mapError .invalid

end ResumableUpload.SignedUrl
