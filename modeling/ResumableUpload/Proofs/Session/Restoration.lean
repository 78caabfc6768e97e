import ResumableUpload.Proofs.Channel.Chunking
import ResumableUpload.Proofs.Session.Observation

/-!
# Restoring validated snapshots

A snapshot that passes validation, wherever it comes from, makes a channel without any call, and the
snapshot that can be taken of this channel is the one that it was made from, but for a buffer that
says the same in another way. The rules of snapshots and the demands of channels agree in all but
one thing: a chunk size may be so large that there is no storage for a chunk. It takes a snapshot
that was not taken of a channel to hold bytes nevertheless.

## Main definitions

* `Snapshot.Validated` — the snapshot is described by named values.
* `Snapshot.HasRoom` — there is storage for the bytes of the snapshot.

## Main results

* `Snapshot.validated_iff_isValid` — what validation amounts to.
* `Snapshot.capture_restore` — restoring a validated snapshot and taking one again.
-/

namespace ResumableUpload

/-! ### What validation amounts to -/

/-- A text that has to be there and not to be empty is not. -/
theorem ne_empty_of_required {fields : Fields} {name s : String}
    (h : Field.required fields name (Field.notEmpty Field.text) = .ok s) : s ≠ "" := by
  rw [Field.required] at h
  cases given : fields.lookup name with
  | none => simp [given, Field.reportAt] at h
  | some v =>
    cases read : Field.text v with
    | error rule => simp [given, Field.notEmpty, read, Field.reportAt] at h
    | ok text =>
      by_cases empty : text.isEmpty = true
      · simp [given, Field.notEmpty, read, empty, Field.reportAt] at h
      · simp only [given, Field.notEmpty, read, if_neg empty, Field.reportAt,
          Except.ok.injEq] at h
        subst h
        rintro rfl
        exact empty rfl

/-- A blob that is described by values is valid. -/
theorem Blob.isValid_of_ofFields {fields : Fields} {b : Blob} (h : ofFields fields = .ok b) :
    b.IsValid := by
  rw [ofFields] at h
  split at h
  · contradiction
  next bucket name contentType generation eq =>
    simp only [Except.ok.injEq] at h
    subst h
    obtain ⟨⟨givenBucket, givenName⟩, -⟩ :=
      And.imp_left both_eq_ok_iff.mp (both_eq_ok_iff.mp eq)
    exact ⟨ne_empty_of_required givenBucket, ne_empty_of_required givenName⟩

namespace Snapshot

/-- The snapshot passes validation: it is described by named values, or taken of a channel, or read
of a document, which is done through named values too. A blob that is given was validated before. -/
def Validated (s : Snapshot) : Prop :=
  ∃ options blob fields, (∀ b, blob = some b → b.IsValid) ∧ ofFields options blob fields = .ok s

/-- A blob that is given, or else described, is valid. -/
theorem isValid_of_model {fields : Fields} {given : Option Blob} {b : Blob}
    (valid : ∀ b, given = some b → b.IsValid)
    (h : model fields "blob_info" "BlobInfo" given Blob.ofFields = .ok b) : b.IsValid := by
  unfold model at h
  split at h
  next a =>
    simp only [Except.ok.injEq] at h
    exact valid b (by rw [h])
  · split at h
    · contradiction
    · exact Blob.isValid_of_ofFields (mapError_eq_ok_iff.mp h)
    · contradiction

/-- A snapshot passes validation just when it is valid. -/
theorem validated_iff_isValid {s : Snapshot} : s.Validated ↔ s.IsValid := by
  constructor
  · rintro ⟨options, blob, fields, valid, h⟩
    rw [ofFields] at h
    split at h
    · contradiction
    next found =>
      obtain ⟨fits, rfl⟩ := checkFits_eq_ok_iff.mp h
      obtain ⟨references, values⟩ := both_eq_ok_iff.mp found
      obtain ⟨-, blob⟩ := both_eq_ok_iff.mp references
      obtain ⟨identified, -⟩ := And.imp_left both_eq_ok_iff.mp (both_eq_ok_iff.mp values)
      exact ⟨isValid_of_model valid blob, ne_empty_of_required identified.1, fits⟩
  · intro valid
    refine ⟨some s.options, some s.blob, s.members, ?_, ?_⟩
    · rintro b given
      obtain rfl := Option.some.inj given
      exact valid.blob
    · rw [ofFields_eq_ok_iff (describes_members s)]
      exact ⟨rfl, valid.uploadId_ne, valid.fits, rfl⟩

/-! ### Restoring and taking again -/

section Machine

variable [Memory]

/-- There is storage for the bytes of the snapshot; if it is closed or has none, none is needed. -/
def HasRoom (s : Snapshot) : Prop :=
  s.isOpen = true → (s.buffer.getD .empty).size ≠ 0 → Shortage.ofSize? s.chunkSize.bytes = none

omit [Memory] in
/-- A snapshot in its normal form stays as it is. -/
theorem normalized_normalized (s : Snapshot) : s.normalized.normalized = s.normalized := by
  unfold normalized
  cases s.isOpen <;> rfl

/-- A snapshot in its normal form has the same bytes, where it needs any. -/
theorem HasRoom.normalized {s : Snapshot} (room : s.HasRoom) : s.normalized.HasRoom := by
  intro isOpen held
  have isOpen : s.isOpen = true := isOpen
  refine room isOpen ?_
  simpa [Snapshot.normalized, isOpen] using held

omit [Memory] in
/-- The normal form of a valid snapshot is valid. -/
theorem IsValid.normalized {s : Snapshot} (valid : s.IsValid) : s.normalized.IsValid where
  blob := valid.blob
  uploadId_ne := valid.uploadId_ne
  fits := by
    intro bytes held
    cases isOpen : s.isOpen with
    | false => simp [Snapshot.normalized, isOpen] at held
    | true =>
      simp only [Snapshot.normalized, isOpen, if_true, Option.some.injEq] at held
      subst held
      cases buffer : s.buffer with
      | none => exact Nat.zero_le _
      | some bytes => exact valid.fits bytes buffer

/-- Restoring makes the channel with what the snapshot says, if there is a buffer for it. -/
theorem restore_fst (s : Snapshot) (t : Service) :
    (s.restore t).1 =
      (Channel.initialBuffer s.chunkSize s.buffer s.isOpen).map fun buffer =>
        ⟨s.options, s.blob, s.uploadId, s.chunkSize, s.position, buffer, s.isOpen⟩ := by
  have size : ChunkSize.validate (.int s.chunkSize.bytes) = .ok s.chunkSize :=
    ChunkSize.ofInt_bytes s.chunkSize
  have notNegative : ¬(s.position : Int) < 0 := by omega
  simp only [restore, Channel.make, size, if_neg notNegative, Int.toNat_natCast]
  cases Channel.initialBuffer s.chunkSize s.buffer s.isOpen <;> rfl

/-- A valid snapshot with room for its bytes can be restored. -/
theorem IsValid.exists_restore {s : Snapshot} (valid : s.IsValid) (room : s.HasRoom)
    (t : Service) : ∃ ch, (s.restore t).1 = .ok ch := by
  have buffer : ∃ buffer, Channel.initialBuffer s.chunkSize s.buffer s.isOpen = .ok buffer := by
    cases isOpen : s.isOpen with
    | false =>
      cases s.buffer with
      | none => exact ⟨_, rfl⟩
      | some bytes =>
        refine ⟨.released, ?_⟩
        simp [Channel.initialBuffer]
    | true =>
      refine Channel.initialBuffer_of_room ?_ ?_
      · cases buffer : s.buffer with
        | none => exact Nat.zero_le _
        | some bytes => exact valid.fits bytes buffer
      · by_cases nothing : (s.buffer.getD .empty).size = 0
        · exact .inr nothing
        · exact .inl (room isOpen nothing)
  obtain ⟨buffer, initial⟩ := buffer
  rw [restore_fst, initial]
  exact ⟨_, rfl⟩

/-- The snapshot that can be taken of the restored channel is the normal form. -/
theorem IsValid.capture_of_restore {s : Snapshot} (valid : s.IsValid) {t : Service} {ch : Channel}
    (h : (s.restore t).1 = .ok ch) : capture ch = .ok s.normalized := by
  obtain ⟨sound, state⟩ := state_of_restore (Prod.ext h rfl)
  have uploadId : ch.uploadId = s.uploadId := congrArg Snapshot.uploadId state
  exact (capture_eq_ok_iff sound).mpr ⟨by rw [uploadId]; exact valid.uploadId_ne, state.symm⟩

/-- Without room for its bytes a valid snapshot cannot be restored. -/
theorem IsValid.restore_eq_error {s : Snapshot} (valid : s.IsValid) (noRoom : ¬s.HasRoom)
    (t : Service) : ∃ shortage, Shortage.ofSize? s.chunkSize.bytes = some shortage ∧
      (s.restore t).1 = .error (Channel.shortageFailure shortage) := by
  simp only [HasRoom, Classical.not_imp] at noRoom
  obtain ⟨isOpen, held, missing⟩ := noRoom
  obtain ⟨shortage, found⟩ := Option.ne_none_iff_exists'.mp missing
  refine ⟨shortage, found, ?_⟩
  cases buffer : s.buffer with
  | none => simp [buffer] at held
  | some bytes =>
    have held : bytes.size ≠ 0 := by simpa [buffer] using held
    have small : ¬s.chunkSize.bytes < bytes.size := Nat.not_lt.mpr (valid.fits bytes buffer)
    have failed : Channel.initialBuffer s.chunkSize (some bytes) true =
        .error (Channel.shortageFailure shortage) := by
      simp [Channel.initialBuffer, ByteArray.isEmpty, held, small, ChunkBuffer.allocate,
        ChunkBuffer.released, found]
    rw [restore_fst, buffer, isOpen, failed]
    rfl

/-- A snapshot that was taken of a channel is restored to one of which it can be taken again. -/
theorem exists_restore_of_capture {ch : Channel} {s : Snapshot} (reachable : ch.Reachable)
    (taken : capture ch = .ok s) (t : Service) :
    ∃ ch', (s.restore t).1 = .ok ch' ∧ capture ch' = .ok s := by
  obtain ⟨identified, rfl⟩ := (capture_eq_ok_iff reachable.sound).mp taken
  have valid := reachable.sound.isValid_state reachable.isValid_blob identified
  obtain ⟨ch', t', restored, -⟩ := reachable.sound.restore_state ch.options t
  have restored : (ch.state.restore t).1 = .ok ch' := congrArg Prod.fst restored
  have again := valid.capture_of_restore restored
  rw [normalized_state] at again
  exact ⟨ch', restored, again⟩

/-- Restoring a validated snapshot makes no call. If there is room for its bytes it succeeds, and
the snapshot that can be taken of the channel is the same with its buffer in normal form; this one
is restored to a channel of which it can be taken again. It fails just when there is no storage for
the bytes of an open snapshot, which is never so for a snapshot that was taken of a channel on the
same machine: such a one comes back as it is. -/
theorem capture_restore {s : Snapshot} (validated : s.Validated) (t : Service) :
    ((s.restore t).2.calls = t.calls ∧ (s.restore t).2.endpoints = t.endpoints ∧
      (s.restore t).2.handles = t.handles) ∧
    (s.HasRoom → ∃ ch, (s.restore t).1 = .ok ch ∧ capture ch = .ok s.normalized ∧
      ∀ u : Service, ∃ ch', (s.normalized.restore u).1 = .ok ch' ∧
        capture ch' = .ok s.normalized) ∧
    (¬s.HasRoom → ∃ shortage, Shortage.ofSize? s.chunkSize.bytes = some shortage ∧
      (s.restore t).1 = .error (Channel.shortageFailure shortage)) ∧
    ∀ ch : Channel, ch.Reachable → capture ch = .ok s →
      ∃ ch', (s.restore t).1 = .ok ch' ∧ capture ch' = .ok s := by
  have valid := validated_iff_isValid.mp validated
  refine ⟨⟨rfl, rfl, rfl⟩, fun room => ?_, fun noRoom => valid.restore_eq_error noRoom t, ?_⟩
  · obtain ⟨ch, restored⟩ := valid.exists_restore room t
    refine ⟨ch, restored, valid.capture_of_restore restored, fun u => ?_⟩
    obtain ⟨ch', again⟩ := valid.normalized.exists_restore room.normalized u
    have taken := valid.normalized.capture_of_restore again
    rw [normalized_normalized] at taken
    exact ⟨ch', again, taken⟩
  · exact fun ch reachable taken => exists_restore_of_capture reachable taken t

end Machine

/-- A closed snapshot that still holds two bytes comes back without them. -/
theorem capture_restore_closed :
    ∃ s ch, ofFields (some ⟨0, none, "east"⟩) (some ⟨"b", "o", none, none⟩)
        [("upload_id", .text "u"), ("chunk_size", .int 262144), ("buffer", .bytes ⟨#[0, 255]⟩),
          ("is_open", .bool false)] = .ok s ∧
      s.buffer = some ⟨#[0, 255]⟩ ∧ (s.restore {}).2.calls = [] ∧ (s.restore {}).1 = .ok ch ∧
      capture ch = .ok { s with buffer := none } := by
  have valid : Blob.IsValid ⟨"b", "o", none, none⟩ := ⟨by decide, by decide⟩
  obtain ⟨s, read, buffer, isOpen⟩ : ∃ s, ofFields (some ⟨0, none, "east"⟩)
      (some ⟨"b", "o", none, none⟩) [("upload_id", .text "u"), ("chunk_size", .int 262144),
        ("buffer", .bytes ⟨#[0, 255]⟩), ("is_open", .bool false)] = .ok s ∧
      s.buffer = some ⟨#[0, 255]⟩ ∧ s.isOpen = false := ⟨_, rfl, rfl, rfl⟩
  have validated : s.Validated :=
    ⟨_, _, _, fun b given => Option.some.inj given ▸ valid, read⟩
  have closed : ¬s.isOpen = true := by simp [isOpen]
  obtain ⟨⟨calls, -⟩, restored, -⟩ := capture_restore validated {}
  obtain ⟨ch, made, taken, -⟩ := restored fun open? => absurd open? closed
  refine ⟨s, ch, read, buffer, calls, made, ?_⟩
  rwa [normalized, if_neg closed] at taken

/-- A snapshot with one byte, and a chunk size that addresses do not reach, passes validation but
cannot be restored. -/
theorem capture_restore_unreachable :
    ∃ s, ofFields (some ⟨0, none, "main"⟩) (some ⟨"b", "n", none, none⟩)
        [("upload_id", .text "u"), ("chunk_size", .int 9223372036854775808),
          ("buffer", .bytes ⟨#[1]⟩)] = .ok s ∧
      s.Validated ∧ ∀ t : Service,
        (s.restore t).1 = .error (.outOfRange "cannot fit 'int' into an index-sized integer") := by
  have valid : Blob.IsValid ⟨"b", "n", none, none⟩ := ⟨by decide, by decide⟩
  have shortage : Shortage.ofSize? 9223372036854775808 = some .addresses :=
    Shortage.ofSize?_of_addressLimit_le (by decide)
  obtain ⟨s, read, buffer, isOpen, size⟩ : ∃ s, ofFields (some ⟨0, none, "main"⟩)
      (some ⟨"b", "n", none, none⟩) [("upload_id", .text "u"),
        ("chunk_size", .int 9223372036854775808), ("buffer", .bytes ⟨#[1]⟩)] = .ok s ∧
      s.buffer = some ⟨#[1]⟩ ∧ s.isOpen = true ∧ s.chunkSize.bytes = 9223372036854775808 :=
    ⟨_, rfl, rfl, rfl, rfl⟩
  have validated : s.Validated :=
    ⟨_, _, _, fun b given => Option.some.inj given ▸ valid, read⟩
  have noRoom : ¬s.HasRoom := by
    intro room
    have available := room isOpen (by rw [buffer]; decide)
    rw [size, shortage] at available
    contradiction
  refine ⟨s, read, validated, fun t => ?_⟩
  obtain ⟨found, eq, failed⟩ := (validated_iff_isValid.mp validated).restore_eq_error noRoom t
  rw [size, shortage, Option.some.injEq] at eq
  subst eq
  exact failed

end Snapshot

end ResumableUpload
