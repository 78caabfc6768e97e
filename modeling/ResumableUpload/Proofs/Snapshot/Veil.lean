import ResumableUpload.Proofs.Channel.Veil
import ResumableUpload.Proofs.Snapshot.Json

/-!
# Snapshots under a veil

What a snapshot shows of its bytes is their number. This is also all that decides whether a snapshot
can be taken, restored or read again, and how long its document is: base64 makes four characters of
every three bytes, and none of them has to be escaped.

## Main results

* `Snapshot.capture_veiled`, `Snapshot.ofJson_veiled` — taking a snapshot, and reading one again.
* `Snapshot.literal_veiled`, `Snapshot.summary_veiled` — the forms in which a snapshot is shown.
* `Snapshot.length_toJson_veiled` — the length of its document.
-/

namespace ResumableUpload

/-! ### Base64 in a document -/

namespace Base64

/-- Four characters for every three bytes, the last of which may be missing. -/
theorem length_symbols (bs : List UInt8) : (symbols bs).length = (bs.length + 2) / 3 * 4 := by
  fun_induction symbols bs with
  | case1 => rfl
  | case2 a n => simp
  | case3 a b n => simp
  | case4 a b c rest n ih =>
    simp only [List.length_cons, ih]
    omega

/-- The characters of data stand in a document as they are. -/
theorem writeChar_symbol {n : Nat} (h : n < 64) : Json.writeChar (symbol n) = [symbol n] := by
  have all : ∀ m : Fin 64, Json.writeChar (symbol m) = [symbol m] := by decide
  exact all ⟨n, h⟩

/-- The text of a row of bytes stands in a document as it is. -/
theorem flatMap_writeChar_symbols (bs : List UInt8) :
    (symbols bs).flatMap Json.writeChar = symbols bs := by
  have pad : Json.writeChar '=' = ['='] := by decide
  fun_induction symbols bs with
  | case1 => rfl
  | case2 a n =>
    have := UInt8.toNat_lt a
    have first := writeChar_symbol (show n / 64 < 64 by omega)
    have second := writeChar_symbol (show n % 64 < 64 by omega)
    simp [first, second, pad]
  | case3 a b n =>
    have := UInt8.toNat_lt a
    have := UInt8.toNat_lt b
    have first := writeChar_symbol (show n / 4096 < 64 by omega)
    have second := writeChar_symbol (show n / 64 % 64 < 64 by omega)
    have third := writeChar_symbol (show n % 64 < 64 by omega)
    simp [first, second, third, pad]
  | case4 a b c rest n ih =>
    have := UInt8.toNat_lt a
    have := UInt8.toNat_lt b
    have := UInt8.toNat_lt c
    have first := writeChar_symbol (show n / 262144 < 64 by omega)
    have second := writeChar_symbol (show n / 4096 % 64 < 64 by omega)
    have third := writeChar_symbol (show n / 64 % 64 < 64 by omega)
    have fourth := writeChar_symbol (show n % 64 < 64 by omega)
    simp only [List.flatMap_cons, ih, first, second, third, fourth, List.singleton_append]

/-- How long bytes are in a document: as long as their base64 text and two quotes. -/
theorem length_writeText_encode (bytes : ByteArray) :
    (Json.writeText (encode bytes)).toList.length = (bytes.size + 2) / 3 * 4 + 2 := by
  have chars : (encode bytes).toList = symbols bytes.data.toList := by
    rw [encode, toList_encodeInto, String.toList_empty, List.nil_append]
  rw [Json.writeText, String.toList_push, Json.toList_writeChars, chars,
    flatMap_writeChar_symbols]
  simp only [List.length_append, length_symbols, Array.length_toList, String.toList_singleton,
    List.length_singleton]
  change 1 + (bytes.size + 2) / 3 * 4 + 1 = _
  omega

end Base64

namespace Snapshot

/-! ### Reading -/

/-- Fields that are models of their own are read alike if they are looked up alike. -/
theorem model_congr {α : Type} {fields fields' : Fields} {name : String}
    (same : fields'.lookup name = fields.lookup name) (typeName : String) (given : Option α)
    (read : Fields → Except Report α) :
    model fields' name typeName given read = model fields name typeName given read := by
  unfold model
  rw [same]

/-- Whether bytes fit depends on their number. -/
theorem checkFits_veiled (s : Snapshot) : checkFits s.veiled = (checkFits s).map veiled := by
  unfold checkFits
  cases buffer : s.buffer with
  | none => simp [veiled, buffer, Except.map]
  | some bytes =>
    by_cases large : s.chunkSize.bytes < bytes.size
    · simp [veiled, buffer, large, Except.map]
    · simp [veiled, buffer, large, Except.map]

/-- Two results together, of which the first is told in another way. -/
theorem both_map_left {α β γ : Type} (f : α → γ) (x : Except Report α) (y : Except Report β) :
    both (x.map f) y = (both x y).map fun p => (f p.1, p.2) := by
  cases x <;> cases y <;> rfl

/-- Two results together, of which the second is told in another way. -/
theorem both_map_right {α β γ : Type} (f : β → γ) (x : Except Report α) (y : Except Report β) :
    both x (y.map f) = (both x y).map fun p => (p.1, f p.2) := by
  cases x <;> cases y <;> rfl

/-- Named values that differ in bytes only are read alike, but for the bytes. -/
theorem ofFields_veiled {options : Option ServiceOptions} {blob : Option Blob}
    {fields fields' : Fields}
    (same : ∀ name, name ≠ "buffer" → fields'.lookup name = fields.lookup name)
    (buffer : Field.optional fields' "buffer" none (Field.nullable Field.bytes) =
      (Field.optional fields "buffer" none (Field.nullable Field.bytes)).map (Option.map veil)) :
    ofFields options blob fields' = (ofFields options blob fields).map veiled := by
  simp only [ofFields, buffer, model_congr (same "options" (by decide)),
    model_congr (same "blob_info" (by decide)),
    Field.required_congr (same "upload_id" (by decide)),
    Field.required_congr (same "chunk_size" (by decide)),
    Field.optional_congr (same "position" (by decide)),
    Field.optional_congr (same "is_open" (by decide)), both_map_left, both_map_right]
  generalize both (both (model fields "options" _ _ _) _) _ = found
  cases found with
  | error report => rfl
  | ok values => exact checkFits_veiled ⟨_, _, _, _, _, _, _⟩

/-! ### Taking a snapshot -/

/-- A snapshot is taken under a veil. -/
theorem capture_veiled (ch : Channel) : capture ch.veiled = (capture ch).map veiled := by
  refine ofFields_veiled (fun name other => ?_) ?_
  · simp only [fieldsOf, Channel.veiled, Fields.lookup, List.foldl_cons, if_neg other.symm]
  · have isOpen : ch.veiled.isOpen = ch.isOpen := rfl
    have held : ch.veiled.buffer.contents = veil ch.buffer.contents :=
      ChunkBuffer.contents_veiled ch.buffer
    have given : (fieldsOf ch).lookup "buffer" =
        some (if ch.isOpen then .bytes ch.buffer.contents else .null) := rfl
    have given' : (fieldsOf ch.veiled).lookup "buffer" =
        some (if ch.isOpen then .bytes (veil ch.buffer.contents) else .null) := by
      rw [← held, ← isOpen]
      rfl
    rw [Field.optional_of_lookup given', Field.optional_of_lookup given]
    cases ch.isOpen <;> rfl

/-! ### Documents -/

/-- A snapshot has as long integers under a veil. -/
theorem isShort_veiled (s : Snapshot) : s.veiled.IsShort ↔ s.IsShort :=
  ⟨fun short => ⟨short.generation, short.chunkSize, short.position⟩,
    fun short => ⟨short.generation, short.chunkSize, short.position⟩⟩

/-- When an integer is too long there are no members. -/
theorem memberValues?_eq_none {s : Snapshot} (long : ¬s.IsShort) :
    Json.memberValues? (stateValues s) = none := by
  cases found : Json.memberValues? (stateValues s) with
  | none => rfl
  | some fields => exact absurd (memberValues?_eq_some_iff.mp found).1 long

/-- A document is read again as it would be under a veil. -/
theorem ofJson_veiled (options : ServiceOptions) (s : Snapshot) :
    ofJson options s.veiled.toJson = (ofJson options s.toJson).map veiled := by
  rw [ofJson, ofJson, read_toJson, read_toJson]
  by_cases short : s.IsShort
  · rw [memberValues?_eq_some_iff.mpr ⟨short, rfl⟩,
      memberValues?_eq_some_iff.mpr ⟨(isShort_veiled s).mpr short, rfl⟩]
    refine ofFields_veiled (fun name other => ?_) ?_
    · simp only [members, veiled, Fields.lookup, List.foldl_cons, if_neg other.symm]
    · obtain ⟨v, given, bytes⟩ := (describes_members s).buffer
      obtain ⟨v', given', bytes'⟩ := (describes_members s.veiled).buffer
      rw [Field.optional_of_lookup given', Field.optional_of_lookup given, bytes, bytes']
      rfl
  · rw [memberValues?_eq_none short, memberValues?_eq_none (mt (isShort_veiled s).mp short)]
    rfl

/-- How long an object is: two braces, its members, and the commas between them. -/
theorem length_writeObject (m : String × String) (members : List (String × String)) :
    (Json.writeObject (m :: members)).length = (Json.memberChars m).length +
      (members.flatMap fun m => ',' :: Json.memberChars m).length + 2 := by
  rw [← String.length_toList, Json.toList_writeObject]
  simp only [List.length_cons, List.length_append, List.length_nil]
  omega

/-- Bytes take as much room in a document as veiled ones. -/
theorem length_bufferMember_veil (buffer : Option ByteArray) :
    (Json.memberChars
        ("buffer", Json.writeOptionalText ((buffer.map veil).map Base64.encode))).length =
      (Json.memberChars ("buffer", Json.writeOptionalText (buffer.map Base64.encode))).length := by
  have text : (Json.writeOptionalText ((buffer.map veil).map Base64.encode)).toList.length =
      (Json.writeOptionalText (buffer.map Base64.encode)).toList.length := by
    cases buffer with
    | none => rfl
    | some bytes =>
      simp only [Option.map_some, Json.writeOptionalText, Base64.length_writeText_encode, size_veil]
  simp only [Json.memberChars, List.length_append, List.length_cons, text]

/-- A document is as long under a veil. -/
theorem length_toJson_veiled (s : Snapshot) : s.veiled.toJson.length = s.toJson.length := by
  rw [toJson, toJson, length_writeObject, length_writeObject]
  simp only [veiled, List.flatMap_cons, List.length_append, List.length_cons,
    length_bufferMember_veil]

/-! ### Showing -/

/-- Of bytes only their number is shown. -/
theorem shownFields_veiled (s : Snapshot) : s.veiled.shownFields = s.shownFields := by
  have buffer : bufferLiteral (s.buffer.map veil) = bufferLiteral s.buffer := by
    cases s.buffer with
    | none => rfl
    | some bytes => simp only [Option.map_some, bufferLiteral, size_veil]
  simp only [shownFields, veiled, buffer]

/-- Whether a snapshot can be shown does not depend on its bytes. -/
theorem isWritable_veiled (s : Snapshot) : s.veiled.isWritable = s.isWritable := by
  simp only [isWritable, veiled]

/-- A snapshot is shown in full as it would be under a veil. -/
theorem literal_veiled (s : Snapshot) : s.veiled.literal = s.literal := by
  unfold literal
  rw [shownFields_veiled]

/-- The fields of a snapshot are shown as they would be under a veil. -/
theorem summary_veiled (s : Snapshot) : s.veiled.summary = s.summary := by
  unfold summary
  rw [shownFields_veiled]

end Snapshot

end ResumableUpload
