import ResumableUpload.Proofs.Channel.Soundness
import ResumableUpload.Proofs.Fields

/-!
# Taking and restoring snapshots

The snapshot of a channel says all that the next operations depend on. It can be taken of every
channel whose session has an identifier, and a channel restored from it is in the same state,
although its storage may be another one.

## Main definitions

* `Channel.state` — the state of a channel as a snapshot.
* `Snapshot.normalized` — a snapshot as it would be taken of the channel restored from it.
* `Snapshot.Describes` — the named values of a snapshot.

## Main results

* `Snapshot.ofFields_eq_ok_iff` — reading the named values of a snapshot.
* `Snapshot.capture_eq_ok_iff` — the snapshot that is taken is the state of the channel.
* `Snapshot.state_of_restore` — the state of a restored channel.
-/

namespace ResumableUpload

/-- Errors told in another way are errors still. -/
theorem mapError_eq_ok_iff {ε ε' α : Type} {f : ε → ε'} {r : Except ε α} {a : α} :
    r.mapError f = .ok a ↔ r = .ok a := by
  cases r with
  | error e => exact ⟨fun h => (nomatch h), fun h => (nomatch h)⟩
  | ok b =>
    exact ⟨fun h => congrArg Except.ok (Except.ok.inj h),
      fun h => congrArg Except.ok (Except.ok.inj h)⟩

/-- The state of a channel as a snapshot. -/
def Channel.state (ch : Channel) : Snapshot :=
  ⟨ch.options, ch.blob, ch.uploadId, ch.chunkSize,
    if ch.isOpen then some ch.buffer.contents else none, ch.position, ch.isOpen⟩

namespace Snapshot

/-! ### Reading -/

/-- The values of these names are those of the snapshot, options and blob aside. -/
structure Describes (fields : Fields) (s : Snapshot) : Prop where
  /-- The session. -/
  uploadId : fields.lookup "upload_id" = some (.text s.uploadId)
  /-- The size of the chunks. -/
  chunkSize : fields.lookup "chunk_size" = some (.int s.chunkSize.bytes)
  /-- The buffered bytes, in one of the forms in which they are read. -/
  buffer : ∃ v, fields.lookup "buffer" = some v ∧ Field.nullable Field.bytes v = .ok s.buffer
  /-- The number of bytes accepted. -/
  position : fields.lookup "position" = some (.int s.position)
  /-- Whether more bytes may be written. -/
  isOpen : fields.lookup "is_open" = some (.bool s.isOpen)

/-- A snapshot passes the check of its buffered bytes just when they fit one chunk. -/
theorem checkFits_eq_ok_iff {s s' : Snapshot} :
    checkFits s = .ok s' ↔
      (∀ bytes, s.buffer = some bytes → bytes.size ≤ s.chunkSize.bytes) ∧ s' = s := by
  rw [checkFits]
  cases buffer : s.buffer with
  | none => simp [eq_comm]
  | some bytes =>
    by_cases large : s.chunkSize.bytes < bytes.size
    · simp only [if_pos large, reduceCtorEq, Option.some.injEq, forall_eq', false_iff, not_and]
      omega
    · have fits : bytes.size ≤ s.chunkSize.bytes := by omega
      simp [if_neg large, fits, eq_comm]

/-- Reading the values of a snapshot gives the snapshot with the blob that is found, if its session
has an identifier and its buffered bytes fit one chunk. -/
theorem ofFields_eq_ok_iff {fields : Fields} {s s' : Snapshot} {options : ServiceOptions}
    {blob? : Option Blob} (describes : Describes fields s) :
    ofFields (some options) blob? fields = .ok s' ↔
      model fields "blob_info" "BlobInfo" blob? Blob.ofFields = .ok s'.blob ∧ s.uploadId ≠ "" ∧
        (∀ bytes, s.buffer = some bytes → bytes.size ≤ s.chunkSize.bytes) ∧
        s' = { s with options := options, blob := s'.blob } := by
  obtain ⟨v, given, bytes⟩ := describes.buffer
  have given? : model fields "options" "StorageOptions" (some options)
      (ServiceOptions.ofFields 0 none) = .ok options := rfl
  simp only [ofFields, given?, Field.required_of_lookup describes.uploadId,
    Field.required_of_lookup describes.chunkSize, Field.optional_of_lookup given,
    Field.optional_of_lookup describes.position, Field.optional_of_lookup describes.isOpen, bytes,
    Field.notNegative_integer, Field.chunkSize_int, Field.truth, Field.reportAt]
  generalize model fields "blob_info" "BlobInfo" blob? Blob.ofFields = found
  by_cases empty : s.uploadId = ""
  · rw [empty, Field.notEmpty_text_empty]
    cases found <;> simp [both]
  · rw [Field.notEmpty_text_of_ne empty]
    cases found with
    | error report => simp [both]
    | ok blob =>
      simp only [both, checkFits_eq_ok_iff, Except.ok.injEq]
      constructor
      · rintro ⟨fits, rfl⟩
        exact ⟨rfl, empty, fits, rfl⟩
      · rintro ⟨rfl, -, fits, eq⟩
        exact ⟨fits, eq⟩

/-! ### Taking and restoring -/

/-- A channel's named values are those of its state. -/
theorem describes_fieldsOf (ch : Channel) : Describes (fieldsOf ch) ch.state where
  uploadId := rfl
  chunkSize := rfl
  buffer := by
    refine ⟨_, rfl, ?_⟩
    rw [Channel.state]
    cases ch.isOpen <;> rfl
  position := rfl
  isOpen := rfl

variable [Memory]

/-- The snapshot that is taken of a sound channel is its state; the session needs an identifier. -/
theorem capture_eq_ok_iff {ch : Channel} {s : Snapshot} (sound : ch.Sound) :
    capture ch = .ok s ↔ ch.uploadId ≠ "" ∧ s = ch.state := by
  have fits : ∀ bytes, ch.state.buffer = some bytes → bytes.size ≤ ch.state.chunkSize.bytes := by
    intro bytes eq
    cases isOpen : ch.isOpen with
    | false => simp [Channel.state, isOpen] at eq
    | true =>
      have held : ch.buffer.contents = bytes := by simpa [Channel.state, isOpen] using eq
      rw [← held, sound.size_contents]
      exact sound.limit_le
  rw [capture, ofFields_eq_ok_iff (describes_fieldsOf ch)]
  constructor
  · rintro ⟨found, ne, -, eq⟩
    have blob : ch.blob = s.blob := Except.ok.inj found
    rw [← blob] at eq
    exact ⟨ne, eq⟩
  · rintro ⟨ne, rfl⟩
    exact ⟨rfl, ne, fits, rfl⟩

/-- A snapshot as it would be taken of the channel restored from it: an open channel has buffered
bytes, be they none, and a closed one has not. -/
def normalized (s : Snapshot) : Snapshot :=
  { s with buffer := if s.isOpen then some (s.buffer.getD .empty) else none }

omit [Memory] in
/-- The state of a channel is as it would be taken. -/
@[simp] theorem normalized_state (ch : Channel) : ch.state.normalized = ch.state := by
  unfold normalized Channel.state
  cases ch.isOpen <;> rfl

/-- A restored channel is sound and in the state of its snapshot. -/
theorem state_of_restore {s : Snapshot} {ch : Channel} {t t' : Service}
    (h : s.restore t = (.ok ch, t')) : ch.Sound ∧ ch.state = s.normalized := by
  have made := congrArg Prod.fst h
  obtain ⟨size, buffer, valid, -, initial, eq⟩ := Channel.make_eq_ok made
  have size_eq : size = s.chunkSize := by
    rw [ChunkSize.validate, ChunkSize.ofInt_bytes] at valid
    exact (Except.ok.inj valid).symm
  obtain ⟨-, -, contents⟩ := Channel.initialBuffer_eq_ok initial
  refine ⟨Channel.sound_make made, ?_⟩
  subst size_eq
  rw [eq, Channel.state, normalized, contents]
  cases s.isOpen <;> simp

end Snapshot

end ResumableUpload
