import ResumableUpload.Text.Point
import ResumableUpload.Text.Quoted
import ResumableUpload.Url.Host

/-!
# Addresses and their paths

An address has a scheme, a location and a path, in this order, and what follows the path:
parameters, a query and a fragment. Each part but the path may be missing. The address is a row of
characters, or of points if it may hold lone surrogates; these are of no meaning in any part.

## Main definitions

* `clean` — an address without the characters that are dropped before it is read.
* `takeScheme`, `takeLocation`, `cutParameters` — the parts one after another.
* `checkLocation` — what is wrong with a location, `UrlFault`.
* `path` — the path of an address.
-/

namespace ResumableUpload.Url

open Text (Letter)

variable {α : Type} [Letter α]

/-- Why an address cannot be taken apart. -/
inductive UrlFault (α : Type) where
  /-- Brackets in the location do not enclose a host. -/
  | brackets
  /-- A bracketed host is wrong. -/
  | host (written : List α) (fault : HostFault)
  /-- The location changes its structure when its characters are made compatible. -/
  | normalization (location : List α)
deriving DecidableEq, Repr

/-- The same fault of letters of another type. -/
def UrlFault.map {β : Type} (f : α → β) : UrlFault α → UrlFault β
  | brackets => brackets
  | host written fault => host (written.map f) fault
  | normalization location => normalization (location.map f)

/-- What is said about the fault. -/
def UrlFault.message : UrlFault Char → String
  | .brackets => "Invalid IPv6 URL"
  | .host _ .malformedFuture => "IPvFuture address is invalid"
  | .host _ .version4 => "An IPv4 address cannot be in brackets"
  | .host written .noAddress =>
    Text.quote (String.ofList written) ++ " does not appear to be an IPv4 or IPv6 address"
  | .normalization location =>
    "netloc '" ++ String.ofList location ++
      "' contains invalid characters under NFKC normalization"

/-- An address without leading spaces and control characters, and without line ends and tabs. -/
def clean (cs : List α) : List α :=
  (cs.dropWhile fun c => (Letter.char c).toNat ≤ 0x20).filter fun c =>
    Letter.char c ≠ '\t' && Letter.char c ≠ '\n' && Letter.char c ≠ '\r'

/-! ### The scheme -/

/-- Whether a character can stand in a scheme. -/
def isSchemeChar (c : Char) : Bool :=
  Text.isAsciiLetter c || Text.isAsciiDigit c || c = '+' || c = '-' || c = '.'

/-- The scheme in lower case, empty if there is none, and what follows its colon. -/
def takeScheme (cs : List α) : List Char × List α :=
  let scheme := (cs.takeWhile (Letter.char · ≠ ':')).map Letter.char
  match cs.dropWhile (Letter.char · ≠ ':') with
  | [] => ([], cs)
  | _ :: rest =>
    if (scheme.head?.map Text.isAsciiLetter).getD false && scheme.all isSchemeChar then
      (scheme.map Text.asciiLower, rest)
    else ([], cs)

/-! ### The location -/

/-- Whether a character ends the location. -/
def endsLocation (c : Char) : Bool := c = '/' || c = '?' || c = '#'

/-- The location, which two slashes introduce, and what follows it. -/
def takeLocation (cs : List α) : List α × List α :=
  if (cs.take 2).map Letter.char = ['/', '/'] then
    let rest := cs.drop 2
    (rest.takeWhile fun c => !endsLocation (Letter.char c),
      rest.dropWhile fun c => !endsLocation (Letter.char c))
  else ([], cs)

/-- What follows the last occurrence of a character, or everything without one. -/
def afterLast (c : Char) (cs : List α) : List α :=
  (cs.reverse.takeWhile (Letter.char · ≠ c)).reverse

/-- The fault of a bracketed host, if it has one. -/
def hostFault (host : List α) : Option (UrlFault α) :=
  (checkHost (host.map Letter.char)).map (.host host)

/-- What is wrong with the brackets of a location that has both. The host is looked for after the
last `@`; nothing stands before its bracket, and after it only what a colon begins. -/
def bracketFault (location : List α) : Option (UrlFault α) :=
  let target := afterLast '@' location
  match target.dropWhile (Letter.char · ≠ '[') with
  | [] => hostFault (target.takeWhile (Letter.char · ≠ ':'))
  | _ :: bracketed =>
    let after := (bracketed.dropWhile (Letter.char · ≠ ']')).drop 1
    if target.head?.map Letter.char ≠ some '[' then some .brackets
    else if !after.isEmpty && after.head?.map Letter.char ≠ some ':' then some .brackets
    else hostFault (bracketed.takeWhile (Letter.char · ≠ ']'))

/-- What is wrong with the brackets of a location. -/
def checkBrackets (location : List α) : Option (UrlFault α) :=
  let cs := location.map Letter.char
  match cs.contains '[', cs.contains ']' with
  | false, false => none
  | true, true => bracketFault location
  | _, _ => some .brackets

/-- The characters beyond ASCII whose compatible form holds one of `/`, `?`, `#`, `@` and `:`. -/
def structuralForms : List Nat :=
  [0x2047, 0x2048, 0x2049, 0x2100, 0x2101, 0x2105, 0x2106, 0x2A74, 0xFE13, 0xFE16, 0xFE55, 0xFE56,
   0xFE5F, 0xFE6B, 0xFF03, 0xFF0F, 0xFF1A, 0xFF1F, 0xFF20]

/-- What is wrong with the characters of a location. -/
def checkCharacters (location : List α) : Option (UrlFault α) :=
  if location.any fun c => structuralForms.contains (Letter.char c).toNat then
    some (.normalization location)
  else none

/-! ### The path -/

/-- The schemes whose paths may carry parameters; an address without scheme may as well. -/
def parameterSchemes : List String :=
  ["", "ftp", "hdl", "prospero", "http", "imap", "https", "shttp", "rtsp", "rtsps", "rtspu", "sip",
   "sips", "mms", "sftp", "tel"]

/-- A path without the parameters of its last segment, which the first semicolon there begins. -/
def cutParameters (path : List α) : List α :=
  let segment := afterLast '/' path
  path.take (path.length - segment.length) ++ segment.takeWhile (Letter.char · ≠ ';')

/-- The path of an address, without parameters, query and fragment: the `path` of `urlparse`. -/
def path (cs : List α) : Except (UrlFault α) (List α) :=
  let (scheme, rest) := takeScheme (clean cs)
  let (location, rest) := takeLocation rest
  match checkBrackets location, checkCharacters location with
  | some fault, _ => .error fault
  | none, some fault => .error fault
  | none, none =>
    let path := (rest.takeWhile (Letter.char · ≠ '#')).takeWhile (Letter.char · ≠ '?')
    .ok (if String.ofList scheme ∈ parameterSchemes then cutParameters path else path)

end ResumableUpload.Url
