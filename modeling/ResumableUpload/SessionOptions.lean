import ResumableUpload.Field

/-!
# Session options

Opening an upload session may carry options: conditions on generations, an access list, a project to
bill and an encryption key. The options that are set are sent under their wire names.

## Main definitions

* `SessionOptions` — the options; all unset by default.
* `SessionOptions.ofFields` — the options described by named values.
* `SessionOptions.wireParameters` — the set options under their wire names.
* `SessionOption`, `SessionOptions.Carried` — the options one by one, and what carries the set ones.
-/

namespace ResumableUpload

/-- Options of an upload session: `UploadOptions`. -/
structure SessionOptions where
  /-- The generation that the object must have. -/
  ifGenerationMatch : Option Int := none
  /-- The metageneration that the object must have. -/
  ifMetagenerationMatch : Option Int := none
  /-- The name of a predefined access list. -/
  predefinedAcl : Option String := none
  /-- The project to bill. -/
  userProject : Option String := none
  /-- The name of an encryption key. -/
  kmsKeyName : Option String := none
deriving DecidableEq, Repr, Inhabited

/-- The value of an option on the wire. -/
inductive Parameter where
  /-- An integer. -/
  | int (n : Int)
  /-- A text. -/
  | text (s : String)
deriving DecidableEq, Repr

namespace SessionOptions

/-- The options described by named values; every field may be left out or be nothing. -/
def ofFields (fields : Fields) : Except Report SessionOptions :=
  let int (name : String) := Field.optional fields name none (Field.nullable Field.integer)
  let text (name : String) := Field.optional fields name none (Field.nullable Field.text)
  match both (both (int "if_generation_match") (int "if_metageneration_match"))
      (both (text "predefined_acl") (both (text "user_project") (text "kms_key_name"))) with
  | .error report => .error report
  | .ok ((generation, metageneration), (acl, (project, key))) =>
    .ok ⟨generation, metageneration, acl, project, key⟩

/-- The options that are set, under their wire names: `as_rpc_params`. An empty text or a zero is
set. -/
def wireParameters (o : SessionOptions) : List (String × Parameter) :=
  [("ifGenerationMatch", o.ifGenerationMatch.map Parameter.int),
   ("ifMetagenerationMatch", o.ifMetagenerationMatch.map Parameter.int),
   ("predefinedAcl", o.predefinedAcl.map Parameter.text),
   ("userProject", o.userProject.map Parameter.text),
   ("kmsKeyName", o.kmsKeyName.map Parameter.text)].filterMap fun (name, value) =>
    value.map fun v => (name, v)

end SessionOptions

/-- The options that there are. -/
inductive SessionOption where
  /-- The generation that the object must have. -/
  | generation
  /-- The metageneration that the object must have. -/
  | metageneration
  /-- The name of a predefined access list. -/
  | acl
  /-- The project to bill. -/
  | project
  /-- The name of an encryption key. -/
  | key
deriving DecidableEq, Repr

/-- The name of an option on the wire, as in `_UPLOAD_OPTION_WIRE_NAMES`. -/
def SessionOption.wireName : SessionOption → String
  | generation => "ifGenerationMatch"
  | metageneration => "ifMetagenerationMatch"
  | acl => "predefinedAcl"
  | project => "userProject"
  | key => "kmsKeyName"

namespace SessionOptions

/-- The value of one option, if it is set. -/
def value (o : SessionOptions) : SessionOption → Option Parameter
  | .generation => o.ifGenerationMatch.map .int
  | .metageneration => o.ifMetagenerationMatch.map .int
  | .acl => o.predefinedAcl.map .text
  | .project => o.userProject.map .text
  | .key => o.kmsKeyName.map .text

/-- The parameters carry the options: those that are set and no others, each once and with its
value, under names that tell them apart. -/
structure Carried (o : SessionOptions) (parameters : List (String × Parameter)) : Prop where
  /-- No two options have the same name. -/
  distinct : ∀ a b : SessionOption, a.wireName = b.wireName → a = b
  /-- No name occurs twice. -/
  nodup : (parameters.map Prod.fst).Nodup
  /-- What is carried is what is set. -/
  mem_iff : ∀ name v, (name, v) ∈ parameters ↔
    ∃ option : SessionOption, option.wireName = name ∧ o.value option = some v

end SessionOptions

end ResumableUpload
