import ResumableUpload.Bytes
import ResumableUpload.Number.Shortest
import ResumableUpload.Text.Quoted

/-!
# Values of unknown shape

Settings, model fields and JSON documents are read from values whose shape is known only when they
are looked at: nothing, truth values, numbers, texts, byte strings, lists and objects.

## Main definitions

* `Value` — such a value.
* `Value.typeName` — the name of its type, as messages give it.
* `Value.literal` — the form in which messages show it, if it can be shown: `Value.isWritable`.
* `Value.display` — its plain text: a text is its own.
* `Fields`, `Fields.lookup` — named values, the last of a name in force.
-/

namespace ResumableUpload

/-- A value of unknown shape. -/
inductive Value where
  /-- Nothing. -/
  | null
  /-- A truth value. -/
  | bool (b : Bool)
  /-- An integer of any size. -/
  | int (n : Int)
  /-- A floating-point number. -/
  | float (x : Binary64)
  /-- A text. -/
  | text (s : String)
  /-- A byte string. -/
  | bytes (b : ByteArray)
  /-- A list. -/
  | list (items : List Value)
  /-- An object: named members in the order they were written. -/
  | object (members : List (String × Value))
deriving Inhabited

/-- Named values. -/
abbrev Fields := List (String × Value)

/-- The value of a name: the last one given. -/
def Fields.lookup (fields : Fields) (name : String) : Option Value :=
  fields.foldl (fun found member => if member.1 = name then some member.2 else found) none

namespace Value

/-- The name of the value's type. -/
def typeName : Value → String
  | null => "NoneType"
  | bool _ => "bool"
  | int _ => "int"
  | float _ => "float"
  | text _ => "str"
  | bytes _ => "bytes"
  | list _ => "list"
  | object _ => "dict"

/-- The written form of a truth value. -/
def boolText (b : Bool) : String := if b then "True" else "False"

mutual

/-- The form in which messages show the value. -/
def literal : Value → String
  | null => "None"
  | bool b => boolText b
  | int n => toString n
  | float x => x.toText
  | text s => Text.quote s
  | bytes b => Text.quoteBytes b
  | list items => "[" ++ ", ".intercalate (literals items) ++ "]"
  | object members => "\x7b" ++ ", ".intercalate (memberLiterals members) ++ "\x7d"

/-- The shown forms of the items of a list. -/
def literals : List Value → List String
  | [] => []
  | item :: items => literal item :: literals items

/-- The shown forms of the members of an object. -/
def memberLiterals : List (String × Value) → List String
  | [] => []
  | (name, item) :: members => (Text.quote name ++ ": " ++ literal item) :: memberLiterals members

end

mutual

/-- Whether the value can be shown: every integer in it has few enough digits. -/
def isWritable : Value → Bool
  | int n => !tooManyDigits n
  | list items => areWritable items
  | object members => areMembersWritable members
  | _ => true

/-- Whether all items of a list can be shown. -/
def areWritable : List Value → Bool
  | [] => true
  | item :: items => isWritable item && areWritable items

/-- Whether all members of an object can be shown. -/
def areMembersWritable : List (String × Value) → Bool
  | [] => true
  | (_, item) :: members => isWritable item && areMembersWritable members

end

/-- The plain text of the value: a text is its own, any other value is shown. -/
def display : Value → String
  | text s => s
  | v => literal v

/-- An optional text as a value. -/
def optionalText : Option String → Value
  | none => null
  | some s => text s

/-- An optional integer as a value. -/
def optionalInt : Option Int → Value
  | none => null
  | some n => int n

end Value

end ResumableUpload
