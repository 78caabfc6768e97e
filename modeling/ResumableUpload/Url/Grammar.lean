import ResumableUpload.Text.Escaping
import ResumableUpload.Url.Split

/-!
# The characters of an address

What may stand where in an address, escapes aside: the characters of a host, which need not be
ASCII, and those of a path. A semicolon in the last segment of a path begins its parameters.

## Main definitions

* `isHostChar`, `isSegmentChar`, `isPathChar` — the characters of the parts.
* `CarriesParameters` — a path with parameters.
* `WithoutParameters` — what of a path comes before its parameters.
* `address`, `NamesObject` — an address that names an object in a bucket.
-/

namespace ResumableUpload.Url

/-- Whether a character may stand in the name of a host: dots, hyphens, and every letter and digit.
Of the characters beyond ASCII, only those are left out whose compatible form would change the
structure of the address, and no letter or digit is among them. -/
def isHostChar (c : Char) : Bool :=
  Text.isAsciiLetter c || Text.isAsciiDigit c || c = '.' || c = '-' ||
    (128 ≤ c.toNat && !structuralForms.contains c.toNat)

/-- The characters with a use of their own in other parts of an address. -/
def reservedInSegment : List Char :=
  ['!', '$', '&', '\'', '(', ')', '*', '+', ',', ';', '=', ':', '@']

/-- Whether a character may stand unescaped in a segment of a path. -/
def isSegmentChar (c : Char) : Bool := Text.isUnreserved c || reservedInSegment.contains c

/-- Whether a character may stand unescaped in a path. -/
def isPathChar (c : Char) : Bool := isSegmentChar c || c = '/'

/-- A path carries parameters if a semicolon stands in its last segment. -/
def CarriesParameters (path : List Char) : Prop :=
  ∃ before after, path = before ++ ';' :: after ∧ '/' ∉ after

/-- What of a path comes before the parameters of its last segment. -/
inductive WithoutParameters : List Char → List Char → Prop
  /-- There are no parameters. -/
  | whole {path : List Char} (none : ¬CarriesParameters path) : WithoutParameters path path
  /-- The parameters follow the first semicolon of the last segment. -/
  | cut {kept parameters : List Char} (last : '/' ∉ parameters) (first : ¬CarriesParameters kept) :
    WithoutParameters (kept ++ ';' :: parameters) kept

/-- The address of an object in a bucket, signed by its query. -/
def address (host bucket name query : String) : String :=
  "https://" ++ host ++ "/" ++ bucket ++ "/" ++ name ++ "?" ++ query

/-- Texts that may stand for bucket and object in a path: its characters and well-formed escapes,
whatever bytes these write. The bucket is one segment, and the name may be several. -/
structure NamesObject (bucket name : String) : Prop where
  /-- There is a bucket. -/
  bucket_ne : bucket ≠ ""
  /-- There is a name. -/
  name_ne : name ≠ ""
  /-- The bucket consists of characters of a segment and of escapes. -/
  bucket_wellFormed : ∃ bytes, Text.Percent.Writes isSegmentChar bytes bucket.toList
  /-- The name consists of characters of a path and of escapes. -/
  name_wellFormed : ∃ bytes, Text.Percent.Writes isPathChar bytes name.toList

end ResumableUpload.Url
