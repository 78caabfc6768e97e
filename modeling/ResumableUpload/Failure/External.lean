import ResumableUpload.Failure.Kind
import ResumableUpload.Text.Position
import ResumableUpload.Value

/-!
# Faults from outside

A fault from outside this library has a kind and the **arguments** it was raised with. For the
numbered kinds, two to five arguments are a number, a text and possibly one or two paths; the paths
are then kept apart from the arguments. A general fault of the system takes the kind of its number.
Most faults say what their arguments are; a few kinds put them into words. An integer of more than
`maxDigits` digits has no shown form, so faults are shown faithfully when their integers are
shorter.

## Main definitions

* `Argument` — what a fault may be raised with.
* `ExternalFault`, `ExternalFault.raise` — a fault, and the one raised with given arguments.
* `ExternalFault.message`, `ExternalFault.literal` — what it says, and the form in which it is
  shown.
-/

namespace ResumableUpload

/-- What a fault may be raised with. -/
inductive Argument where
  /-- Nothing. -/
  | null
  /-- A truth value. -/
  | bool (b : Bool)
  /-- An integer. -/
  | int (n : Int)
  /-- A text. -/
  | text (s : String)
deriving DecidableEq, Repr

namespace Argument

/-- The argument as a value. -/
def toValue : Argument → Value
  | null => .null
  | bool b => .bool b
  | int n => .int n
  | text s => .text s

/-- The form in which messages show the argument. -/
def literal (a : Argument) : String := a.toValue.literal

/-- The plain text of the argument. -/
def display (a : Argument) : String := a.toValue.display

/-- The integer that an argument counts as: a truth value counts as 0 or 1. -/
def toInt? : Argument → Option Int
  | int n => some n
  | bool b => some (if b then 1 else 0)
  | _ => none

/-- Whether the argument says nothing: it is absent, false, zero or an empty text. -/
def isVoid : Argument → Bool
  | null => true
  | bool b => !b
  | int n => n = 0
  | text s => s.isEmpty

end Argument

/-- A fault from outside this library. -/
structure ExternalFault where
  /-- What kind of fault it is. -/
  kind : ExternalKind
  /-- What it was raised with, without paths. -/
  arguments : List Argument
  /-- The paths it is about. -/
  paths : List Argument
  /-- The status of the answer that it comes with. -/
  status : Option Int
deriving DecidableEq, Repr

namespace ExternalFault

/-- Whether a fault of the kind, raised with so many arguments, has a number. -/
def hasNumber (kind : ExternalKind) (count : Nat) : Bool :=
  kind.isNumbered && 2 ≤ count && count ≤ 5

/-- The kind of a fault raised with the arguments: a general fault of the system with a number is of
the kind of that number. -/
def kindFor (kind : ExternalKind) (arguments : List Argument) : ExternalKind :=
  if kind = .system .general && hasNumber kind arguments.length then
    match arguments.head?.bind Argument.toInt? with
    | some number => .system (.ofNumber number)
    | none => kind
  else kind

/-- Whether the third argument of a numbered fault is a path. Where an operation would block, a
number there counts what has been written. -/
def isPath (kind : ExternalKind) (a : Argument) : Bool :=
  a ≠ .null && !(kind = .system .blocking && a.toInt?.isSome)

/-- The paths among the arguments: the third, and with it the fifth. -/
def pathsFor (kind : ExternalKind) (arguments : List Argument) : List Argument :=
  if hasNumber kind arguments.length then
    match arguments.drop 2 with
    | [] => []
    | path :: rest =>
      if isPath kind path then
        path :: ((rest.drop 1).filter (· ≠ .null)).take 1
      else []
  else []

/-- A complaint about the character of a text at a position. -/
def complaintAt (complaint text : String) (position : Int) : String :=
  let cs := text.toList
  s!"{complaint}: line {Text.lineAt cs position} column {Text.columnAt cs position} " ++
    s!"(char {position})"

/-- The arguments that a fault keeps: malformed JSON is described by one, which is put together from
a complaint, the text and the position. -/
def argumentsFor (kind : ExternalKind) (arguments : List Argument) : List Argument :=
  match kind, arguments with
  | .transport .malformedJson, [complaint, .text text, position] =>
    [.text (complaintAt complaint.display text (position.toInt?.getD 0))]
  | _, _ => arguments

/-- The fault of a kind raised with the arguments. -/
def raise (kind : ExternalKind) (arguments : List Argument) (status : Option Int) : ExternalFault :=
  let arguments := argumentsFor kind arguments
  let kind := kindFor kind arguments
  let paths := pathsFor kind arguments
  ⟨kind, if paths.isEmpty then arguments else arguments.take 2, paths, status⟩

/-- A fault of a kind with what is said about it. -/
def saying (kind : ProgramKind) (message : String) : ExternalFault :=
  ⟨.program kind, [.text message], [], none⟩

/-- A fault that lies in a value, with what is said about it. -/
def invalidValue (message : String) : ExternalFault := saying .invalidValue message

/-- A fault that lies in the type of a value, with what is said about it. -/
def wrongType (message : String) : ExternalFault := saying .wrongType message

/-- A fault of a number that is too large for its purpose, with what is said about it. -/
def outOfRange (message : String) : ExternalFault := saying .outOfRange message

/-- The fault of too little memory, about which nothing is said. -/
def noMemory : ExternalFault := ⟨.program .noMemory, [], [], none⟩

/-- The shown arguments between parentheses. -/
def shownArguments (arguments : List Argument) : String :=
  "(" ++ ", ".intercalate (arguments.map Argument.literal) ++ ")"

/-- The paths as they stand at the end of a message. -/
def shownPaths (paths : List Argument) : String :=
  if paths.isEmpty then "" else ": " ++ " -> ".intercalate (paths.map Argument.literal)

/-- What a fault says by its arguments alone. -/
def plainMessage (f : ExternalFault) : String :=
  match f.arguments with
  | [] => ""
  | [a] => if f.kind.inherits KnownKind.isMissingKey then a.literal else a.display
  | a :: b :: _ =>
    if hasNumber f.kind f.arguments.length then
      s!"[Errno {a.display}] {b.display}{shownPaths f.paths}"
    else shownArguments f.arguments

/-- The file that the description of a place in a source names: its first character, where a slash
names no file. -/
def sourceFile (place : String) : String :=
  String.ofList ((place.toList.take 1).filter (· ≠ '/'))

/-- What a fault in a source says: its first argument, whatever follows. If that is one more text,
it describes the place. -/
def sourceMessage : List Argument → String
  | [] => Argument.null.display
  | [a, .text place] => s!"{a.display} ({sourceFile place})"
  | a :: _ => a.display

/-- What a fault in the coding of a text says that concerns the characters from `first` up to
`last`. A single character is shown by its number. -/
def codingMessage (complaint text : String) (first last : Int) (reason : String) : String :=
  match (if last = first + 1 ∧ 0 ≤ first then text.toList[first.toNat]? else none) with
  | some c =>
    s!"{complaint} character '{String.ofList (Text.escapeNumber c)}' in position {first}: {reason}"
  | none => s!"{complaint} characters in position {first}-{last - 1}: {reason}"

/-- What the fault says. -/
def message (f : ExternalFault) : String :=
  match f.kind, f.arguments with
  | .program .textEncoding, [.text coding, .text text, first, last, .text reason] =>
    codingMessage s!"'{coding}' codec can't encode" text (first.toInt?.getD 0) (last.toInt?.getD 0)
      reason
  | .program .textTranslation, [.text text, first, last, .text reason] =>
    codingMessage "can't translate" text (first.toInt?.getD 0) (last.toInt?.getD 0) reason
  | .program kind, arguments => if kind.isSource then sourceMessage arguments else f.plainMessage
  | _, _ => f.plainMessage

/-- The form in which messages show the fault. -/
def literal (f : ExternalFault) : String := f.kind.name ++ shownArguments f.arguments

end ExternalFault

end ResumableUpload
