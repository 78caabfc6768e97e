import ResumableUpload.Text.Ascii
import ResumableUpload.Text.Hexadecimal

/-!
# Hosts between brackets

The location of an address may name its host between brackets: as an address of internet protocol
version 6, or of a later version. Both are checked by their written form only.

## Main definitions

* `splitOn` — the parts of a row of characters between separators.
* `isIPv4`, `isIPv6`, `isFutureAddress` — the written forms.
* `checkHost` — what is wrong with a bracketed host, `HostFault`.
-/

namespace ResumableUpload.Url

/-- The parts of a row of characters between separators; there is always at least one. -/
def splitOn (separator : Char) : List Char → List (List Char)
  | [] => [[]]
  | c :: cs =>
    if c = separator then [] :: splitOn separator cs
    else match splitOn separator cs with
      | [] => [[c]]
      | part :: parts => (c :: part) :: parts

/-- Whether a part is a number of at most 255, in at most three digits and without a leading zero.
-/
def isOctet (part : List Char) : Bool :=
  !part.isEmpty && part.all Text.isAsciiDigit && part.length ≤ 3 &&
    (part.length = 1 || part.head? ≠ some '0') && Text.asciiValue part ≤ 255

/-- Whether the characters are four octets between dots. -/
def isIPv4 (cs : List Char) : Bool :=
  let parts := splitOn '.' cs
  parts.length = 4 && parts.all isOctet

/-- Whether a part is one to four hexadecimal digits. -/
def isHextet (part : List Char) : Bool :=
  !part.isEmpty && part.length ≤ 4 && part.all fun c => (Text.hexValue? c).isSome

/-- The parts of an address between colons, a last part with dots counting as two; `none` if that
part is not four octets. -/
def hextets? (cs : List Char) : Option (List (List Char)) :=
  let parts := splitOn ':' cs
  let final := parts.getLast?.getD []
  if parts.length < 3 then none
  else if final.contains '.' then
    if isIPv4 final then some (parts.dropLast ++ [['0'], ['0']]) else none
  else some parts

/-- Whether parts between colons make up an address. One empty part in the middle stands for any
positive number of parts; beside it the first part, and likewise the last, may be empty only when
nothing else stands on its side. -/
def isAddress (parts : List (List Char)) : Bool :=
  let inner := (parts.drop 1).dropLast
  match inner.filter List.isEmpty with
  | [] => parts.length = 8 && parts.all isHextet
  | [_] =>
    let high := parts.take (1 + (inner.takeWhile fun part => !part.isEmpty).length)
    let low := parts.drop (high.length + 1)
    let high := if high = [[]] then [] else high
    let low := if low = [[]] then [] else low
    parts.length ≤ 9 && high.length + low.length ≤ 7 && high.all isHextet && low.all isHextet
  | _ => false

/-- Whether the characters are an address of version 6, possibly followed by `%` and the name of a
zone. -/
def isIPv6 (cs : List Char) : Bool :=
  let address := cs.takeWhile (· ≠ '%')
  let zoneIsNamed := match cs.dropWhile (· ≠ '%') with
    | [] => true
    | _ :: zone => !zone.isEmpty && !zone.contains '%'
  zoneIsNamed && match hextets? address with
    | none => false
    | some parts => isAddress parts

/-- Whether the characters name a later version: `v`, hexadecimal digits, a dot and something more.
-/
def isFutureAddress : List Char → Bool
  | 'v' :: cs =>
    let version := cs.takeWhile fun c => (Text.hexValue? c).isSome
    match cs.dropWhile fun c => (Text.hexValue? c).isSome with
    | '.' :: address => !version.isEmpty && !address.isEmpty
    | _ => false
  | _ => false

/-- What is wrong with a bracketed host. -/
inductive HostFault where
  /-- It names a later version in a wrong form. -/
  | malformedFuture
  /-- It is an address of version 4. -/
  | version4
  /-- It is no address at all. -/
  | noAddress
deriving DecidableEq, Repr

/-- What is wrong with a bracketed host, if anything is. -/
def checkHost (host : List Char) : Option HostFault :=
  if host.head? = some 'v' then
    if isFutureAddress host then none else some .malformedFuture
  else if isIPv4 host then some .version4
  else if isIPv6 host then none
  else some .noAddress

end ResumableUpload.Url
