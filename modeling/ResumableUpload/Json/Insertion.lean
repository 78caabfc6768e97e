import ResumableUpload.Json.Document

/-!
# Members added to a text

Members may be written into the text of an object in front of its first member, behind any member,
or where there is none. What is written is itself the inside of an object, so that it is known which
members it holds, and that none of them is nested too deeply to be read where it stands.

## Main definitions

* `isSpace` — the characters between tokens.
* `AddsMembers` — the text of an object, and the same with more members.
-/

namespace ResumableUpload.Json

/-- Whether a character may stand between tokens without being one. -/
def isSpace (c : Char) : Bool := c = ' ' || c = '\t' || c = '\n' || c = '\r'

/-- The second text is that of an object with the given members added to those of the first. -/
inductive AddsMembers (limits : Limits) (added : Fields) : String → String → Prop
  /-- Behind a member, of which it is known that the object could end there. -/
  | behind {front inserted separator rest : String} {first members : Fields}
    (new : read limits ("\x7b" ++ inserted ++ "\x7d") = some (.object added)) (new_ne : added ≠ [])
    (before : read limits (front ++ "\x7d") = some (.object first)) (before_ne : first ≠ [])
    (separates : separator = "," ∨ separator = "\x7d")
    (whole : read limits (front ++ separator ++ rest) = some (.object members)) :
    AddsMembers limits added (front ++ separator ++ rest)
      (front ++ "," ++ inserted ++ separator ++ rest)
  /-- In front of the first member. -/
  | before {lead inserted rest : String} {members : Fields}
    (new : read limits ("\x7b" ++ inserted ++ "\x7d") = some (.object added)) (new_ne : added ≠ [])
    (spaces : lead.toList.all isSpace = true)
    (whole : read limits (lead ++ "\x7b" ++ rest) = some (.object members))
    (whole_ne : members ≠ []) :
    AddsMembers limits added (lead ++ "\x7b" ++ rest)
      (lead ++ "\x7b" ++ inserted ++ "," ++ rest)
  /-- Into an object without members. -/
  | only {lead inserted inner rest : String}
    (new : read limits ("\x7b" ++ inserted ++ "\x7d") = some (.object added)) (new_ne : added ≠ [])
    (spaces : (lead ++ inner ++ rest).toList.all isSpace = true) :
    AddsMembers limits added (lead ++ "\x7b" ++ inner ++ "\x7d" ++ rest)
      (lead ++ "\x7b" ++ inserted ++ "\x7d" ++ rest)

end ResumableUpload.Json
