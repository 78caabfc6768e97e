import ResumableUpload.Proofs.Base64
import ResumableUpload.Proofs.Json.Writer
import ResumableUpload.Proofs.Snapshot.Basic
import ResumableUpload.Snapshot.Json

/-!
# The document of a snapshot

The document that is written of a snapshot is read as the members of the snapshot, and these as the
snapshot, bound to the reader's options. Only integers of too many digits are in the way: they are
written, but not read.

## Main definitions

* `Blob.members`, `Snapshot.members` — blob and snapshot as named values.
* `Snapshot.IsShort` — the integers of a snapshot have few enough digits to be read.
* `Snapshot.stateValues` — its members as they are read again.

## Main results

* `Snapshot.read_toJson` — the document of a snapshot.
* `Snapshot.ofJson_eq_ok_iff` — the snapshot that is read of it.
* `Snapshot.ofJson_toJson` — a valid snapshot comes back from its document.
-/

namespace ResumableUpload

/-- A blob as named values. -/
def Blob.members (b : Blob) : Fields :=
  [("bucket", .text b.bucket), ("name", .text b.name),
   ("content_type", Value.optionalText b.contentType),
   ("generation", Value.optionalInt b.generation)]

namespace Snapshot

/-- A snapshot as named values, options aside. -/
def members (s : Snapshot) : Fields :=
  [("blob_info", .object s.blob.members), ("upload_id", .text s.uploadId),
   ("chunk_size", .int s.chunkSize.bytes),
   ("buffer", Value.optionalText (s.buffer.map Base64.encode)),
   ("position", .int s.position), ("is_open", .bool s.isOpen)]

/-- The integers of a snapshot have few enough digits to be read. -/
structure IsShort (s : Snapshot) : Prop where
  /-- The generation of the blob. -/
  generation : ∀ n, s.blob.generation = some n → tooManyDigits n = false
  /-- The size of the chunks. -/
  chunkSize : tooManyDigits s.chunkSize.bytes = false
  /-- The number of bytes accepted. -/
  position : tooManyDigits s.position = false

/-! ### Writing -/

/-- Which integers have too many digits. -/
theorem tooManyDigits_iff (n : Int) : tooManyDigits n = true ↔ ¬n.natAbs < tenTo maxDigits := by
  rw [tooManyDigits, decide_eq_true_iff, Nat.not_lt]

/-- An optional integer as it is read again, if it has few enough digits. -/
def readable? : Option Int → Option Value
  | none => some .null
  | some n => if tooManyDigits n then none else some (.int n)

/-- When an optional integer is read again, and as what. -/
theorem readable?_eq_some_iff {n : Option Int} {v : Value} :
    readable? n = some v ↔
      (∀ m, n = some m → tooManyDigits m = false) ∧ v = Value.optionalInt n := by
  cases n with
  | none =>
    constructor
    · intro eq
      exact ⟨fun _ given => (nomatch given), (Option.some.inj eq).symm⟩
    · rintro ⟨-, rfl⟩
      rfl
  | some m =>
    have given : readable? (some m) = if tooManyDigits m then none else some (.int m) := rfl
    have known : (∀ k, some m = some k → tooManyDigits k = false) ↔ tooManyDigits m = false := by
      simp only [Option.some.injEq, forall_eq']
    rw [given, known, Value.optionalInt]
    cases tooManyDigits m with
    | false => simp [eq_comm]
    | true => simp

/-- An optional integer is read again unless it has too many digits. -/
theorem spellsBefore_optionalInt (n : Option Int) :
    Json.SpellsBefore maxDigits (Json.writeOptionalInt n).toList (readable? n) := by
  cases n with
  | none => exact Json.spellsBefore_null
  | some n =>
    have readable : readable? (some n) =
        if n.natAbs < tenTo maxDigits then some (.int n) else none := by
      have given : readable? (some n) = if tooManyDigits n then none else some (.int n) := rfl
      rw [given]
      by_cases many : tooManyDigits n = true
      · rw [if_pos many, if_neg ((tooManyDigits_iff n).mp many)]
      · rw [if_neg many, if_pos (not_not.mp (mt (tooManyDigits_iff n).mpr many))]
    rw [readable]
    exact Json.spellsBefore_int (by decide) n

/-- An optional text is read again. -/
theorem spellsBefore_optionalText (s : Option String) :
    Json.SpellsBefore maxDigits (Json.writeOptionalText s).toList
      (some (Value.optionalText s)) := by
  cases s with
  | none => exact Json.spellsBefore_null
  | some s => exact (Json.spells_text s).before

/-- The members of a blob as they are read again. -/
def blobValues (b : Blob) : List (String × Option Value) :=
  [("bucket", some (.text b.bucket)), ("name", some (.text b.name)),
   ("content_type", some (Value.optionalText b.contentType)),
   ("generation", readable? b.generation)]

/-- A blob is read again unless its generation has too many digits. -/
theorem spells_blob (b : Blob) :
    Json.Spells maxDigits (writeBlob b).toList
      ((Json.memberValues? (blobValues b)).map .object) := by
  refine Json.spells_object ?_
  refine Json.spellsBefore_cons (Json.spells_text b.bucket).before ?_
  refine Json.spellsBefore_cons (Json.spells_text b.name).before ?_
  refine Json.spellsBefore_cons (spellsBefore_optionalText b.contentType) ?_
  exact Json.spellsBefore_cons (spellsBefore_optionalInt b.generation) .nil

/-- The members of a snapshot as they are read again. -/
def stateValues (s : Snapshot) : List (String × Option Value) :=
  [("blob_info", (Json.memberValues? (blobValues s.blob)).map .object),
   ("upload_id", some (.text s.uploadId)),
   ("chunk_size", readable? (some (s.chunkSize.bytes : Int))),
   ("buffer", some (Value.optionalText (s.buffer.map Base64.encode))),
   ("position", readable? (some (s.position : Int))), ("is_open", some (.bool s.isOpen))]

/-- The document of a snapshot is read again unless one of its integers has too many digits. -/
theorem spells_toJson (s : Snapshot) :
    Json.Spells maxDigits s.toJson.toList ((Json.memberValues? (stateValues s)).map .object) := by
  refine Json.spells_object ?_
  refine Json.spellsBefore_cons (spells_blob s.blob).before ?_
  refine Json.spellsBefore_cons (Json.spells_text s.uploadId).before ?_
  refine Json.spellsBefore_cons (spellsBefore_optionalInt _) ?_
  refine Json.spellsBefore_cons (spellsBefore_optionalText _) ?_
  refine Json.spellsBefore_cons (spellsBefore_optionalInt _) ?_
  exact Json.spellsBefore_cons (Json.spellsBefore_bool s.isOpen) .nil

/-- When all integers are short, the members are those of the snapshot; otherwise there are none. -/
theorem memberValues?_eq_some_iff {s : Snapshot} {fields : Fields} :
    Json.memberValues? (stateValues s) = some fields ↔ s.IsShort ∧ fields = s.members := by
  constructor
  · intro h
    cases generation : readable? s.blob.generation with
    | none => simp [stateValues, blobValues, Json.memberValues?, generation] at h
    | some g =>
      cases size : readable? (some (s.chunkSize.bytes : Int)) with
      | none => simp [stateValues, Json.memberValues?, size] at h
      | some n =>
        cases position : readable? (some (s.position : Int)) with
        | none => simp [stateValues, Json.memberValues?, position] at h
        | some p =>
          simp only [stateValues, blobValues, Json.memberValues?, generation, size, position,
            Option.bind_some, Option.map_some, Option.some.injEq] at h
          obtain ⟨shortGeneration, rfl⟩ := readable?_eq_some_iff.mp generation
          obtain ⟨shortSize, rfl⟩ := readable?_eq_some_iff.mp size
          obtain ⟨shortPosition, rfl⟩ := readable?_eq_some_iff.mp position
          exact ⟨⟨shortGeneration, shortSize _ rfl, shortPosition _ rfl⟩, h.symm⟩
  · rintro ⟨short, rfl⟩
    have generation := readable?_eq_some_iff.mpr ⟨short.generation, rfl⟩
    have size : readable? (some (s.chunkSize.bytes : Int)) = some (.int s.chunkSize.bytes) :=
      readable?_eq_some_iff.mpr ⟨fun m given => Option.some.inj given ▸ short.chunkSize, rfl⟩
    have position : readable? (some (s.position : Int)) = some (.int s.position) :=
      readable?_eq_some_iff.mpr ⟨fun m given => Option.some.inj given ▸ short.position, rfl⟩
    simp only [stateValues, blobValues, Json.memberValues?, generation, size, position,
      Option.bind_some, Option.map_some, members, Blob.members]

/-! ### Reading -/

/-- An optional text is no container. -/
theorem depth_optionalText (s : Option String) : (Value.optionalText s).depth = 0 := by
  cases s <;> rfl

/-- An optional integer is no container. -/
theorem depth_optionalInt (n : Option Int) : (Value.optionalInt n).depth = 0 := by
  cases n <;> rfl

/-- The members of a snapshot stand in two objects at most. -/
theorem depth_members (s : Snapshot) : (Value.object s.members).depth = 2 := by
  simp [members, Blob.members, Value.depth, Value.membersDepth, depth_optionalText,
    depth_optionalInt]

/-- The document of a snapshot is read as its members, or refused. -/
theorem read_toJson (s : Snapshot) :
    Json.read limits s.toJson = (Json.memberValues? (stateValues s)).map .object := by
  refine Json.Spells.read (spells_toJson s) ?_
  intro v eq
  rw [Option.map_eq_some_iff] at eq
  obtain ⟨fields, found, rfl⟩ := eq
  obtain ⟨-, rfl⟩ := memberValues?_eq_some_iff.mp found
  rw [depth_members]
  decide

/-- Optional bytes are read as they were written in base64. -/
theorem nullable_bytes (bytes : Option ByteArray) :
    Field.nullable Field.bytes (Value.optionalText (bytes.map Base64.encode)) = .ok bytes := by
  cases bytes with
  | none => rfl
  | some bytes =>
    have decoded : Field.bytes (.text (Base64.encode bytes)) = .ok bytes := by
      rw [Field.bytes, Base64.decode_encode]
    rw [Option.map_some, Value.optionalText, Field.nullable, decoded]
    · rfl
    · simp

/-- The members of a blob are read as the blob, if it is valid. -/
theorem blob_ofFields_members {b b' : Blob} :
    Blob.ofFields b.members = .ok b' ↔ b.IsValid ∧ b' = b := by
  have bucket : b.members.lookup "bucket" = some (.text b.bucket) := rfl
  have name : b.members.lookup "name" = some (.text b.name) := rfl
  have contentType : b.members.lookup "content_type" = some (Value.optionalText b.contentType) :=
    rfl
  have generation : b.members.lookup "generation" = some (Value.optionalInt b.generation) := rfl
  simp only [Blob.ofFields, Field.required_of_lookup bucket, Field.required_of_lookup name,
    Field.optional_of_lookup contentType, Field.optional_of_lookup generation,
    Field.nullable_text, Field.nullable_integer, Field.reportAt]
  by_cases noBucket : b.bucket = ""
  · have invalid : ¬b.IsValid := fun valid => valid.bucket_ne noBucket
    rw [noBucket, Field.notEmpty_text_empty]
    cases Field.notEmpty Field.text (.text b.name) <;> simp [both, invalid]
  · rw [Field.notEmpty_text_of_ne noBucket]
    by_cases noName : b.name = ""
    · have invalid : ¬b.IsValid := fun valid => valid.name_ne noName
      rw [noName, Field.notEmpty_text_empty]
      simp [both, invalid]
    · have valid : b.IsValid := ⟨noBucket, noName⟩
      rw [Field.notEmpty_text_of_ne noName]
      simp only [both, Except.ok.injEq, valid, true_and]
      exact eq_comm

/-- The members of a snapshot describe it. -/
theorem describes_members (s : Snapshot) : Describes s.members s where
  uploadId := rfl
  chunkSize := rfl
  buffer := ⟨_, rfl, nullable_bytes s.buffer⟩
  position := rfl
  isOpen := rfl

/-- What is read of the document of a snapshot: the snapshot with the reader's options, if it is
valid and its integers are short. -/
theorem ofJson_eq_ok_iff {options : ServiceOptions} {s s' : Snapshot} :
    ofJson options s.toJson = .ok s' ↔
      s.IsShort ∧ s.IsValid ∧ s' = { s with options := options } := by
  have found : ∀ b, model s.members "blob_info" "BlobInfo" none Blob.ofFields = .ok b ↔
      s.blob.IsValid ∧ b = s.blob := by
    intro b
    rw [← blob_ofFields_members]
    exact mapError_eq_ok_iff (f := Report.inside "blob_info")
  rw [ofJson, read_toJson]
  cases fields? : Json.memberValues? (stateValues s) with
  | none =>
    have long : ¬s.IsShort := by
      intro short
      rw [memberValues?_eq_some_iff.mpr ⟨short, rfl⟩] at fields?
      contradiction
    simp [ofDocument, long]
  | some fields =>
    obtain ⟨short, rfl⟩ := memberValues?_eq_some_iff.mp fields?
    rw [Option.map_some, ofDocument, ofFields_eq_ok_iff (describes_members s), found]
    constructor
    · rintro ⟨⟨blob, same⟩, ne, fits, eq⟩
      rw [same] at eq
      exact ⟨short, ⟨blob, ne, fits⟩, eq⟩
    · rintro ⟨-, valid, rfl⟩
      exact ⟨⟨valid.blob, rfl⟩, valid.uploadId_ne, valid.fits, rfl⟩

/-- It does not matter whether a document is given as text or in UTF-8. -/
theorem ofJsonBytes_toUTF8 (options : ServiceOptions) (document : String) :
    ofJsonBytes options document.toUTF8 = ofJson options document := by
  have decoded : String.fromUTF8? document.toUTF8 = some document := by
    rw [String.fromUTF8?, String.toUTF8_eq_toByteArray, dif_pos document.isValidUTF8]
    rfl
  rw [ofJsonBytes, decoded, Option.bind_some, ofJson]

/-- A valid snapshot comes back from its document, bound to the reader's options, if its integers
are short. The document may be given as text or in UTF-8, and it does not tell which options the
snapshot was bound to. -/
theorem ofJson_toJson {s : Snapshot} (valid : s.IsValid) (short : s.IsShort)
    (options : ServiceOptions) :
    ofJson options s.toJson = .ok { s with options := options } ∧
      ofJsonBytes options s.toJson.toUTF8 = .ok { s with options := options } ∧
      toJson { s with options := options } = s.toJson := by
  have read : ofJson options s.toJson = .ok { s with options := options } :=
    ofJson_eq_ok_iff.mpr ⟨short, valid, rfl⟩
  refine ⟨read, ?_, rfl⟩
  rw [ofJsonBytes_toUTF8]
  exact read

/-- A closed snapshot that still holds two bytes, with texts whose characters are all escaped or lie
beyond the basic plane. -/
theorem ofJson_toJson_escaped :
    ∃ s : Snapshot, s = ⟨⟨0, none, "east"⟩, ⟨"\"\\\n\x01", "𝄞", some "", some (-7)⟩, "\x1f\t𝄞",
        ⟨262144, by decide, by decide⟩, some ⟨#[0, 255]⟩, 5, false⟩ ∧
      s.IsValid ∧ s.IsShort ∧
      ofJson ⟨1, some "p", "west"⟩ s.toJson = .ok { s with options := ⟨1, some "p", "west"⟩ } ∧
      ofJsonBytes ⟨1, some "p", "west"⟩ s.toJson.toUTF8 =
        .ok { s with options := ⟨1, some "p", "west"⟩ } ∧
      toJson { s with options := ⟨1, some "p", "west"⟩ } = s.toJson := by
  have few : tooManyDigits (-7) = false ∧ tooManyDigits (262144 : Nat) = false ∧
      tooManyDigits (5 : Nat) = false := by decide +kernel
  refine ⟨_, rfl, ?valid, ?short, ofJson_toJson ?valid ?short _⟩
  case valid =>
    refine ⟨⟨by decide, by decide⟩, by decide, ?_⟩
    rintro bytes held
    obtain rfl := Option.some.inj held
    decide
  case short =>
    refine ⟨?_, few.2.1, few.2.2⟩
    rintro n given
    obtain rfl := Option.some.inj given
    exact few.1

end Snapshot

end ResumableUpload
