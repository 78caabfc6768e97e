import ResumableUpload.Proofs.Session.Reachable
import ResumableUpload.Proofs.Session.Twins

/-!
# Restored channels cannot be told apart

A channel that was restored from a snapshot shows the same as the channel of which the snapshot was
taken, whatever is done to both; so do any two channels of which equal snapshots can be taken.

## Main results

* `Channel.handOver_of_identified` — a hand-over succeeds, and without any call.
* `Channel.Twins.observed_actions` — twins show the same in all that is done to them.
* `Channel.restored_alike` — restored channels, and channels with equal snapshots.
-/

namespace ResumableUpload.Channel

variable {ch ch' : Channel} {s s' : Service}

/-! ### Hand-overs that succeed -/

section Machine

variable [Memory]

/-- The state of a sound channel with a valid blob and an identified session is valid. -/
theorem Sound.isValid_state (sound : ch.Sound) (blob : ch.blob.IsValid)
    (identified : ch.uploadId ≠ "") : ch.state.IsValid where
  blob := blob
  uploadId_ne := identified
  fits := by
    intro bytes eq
    cases isOpen : ch.isOpen with
    | false => simp [state, isOpen] at eq
    | true =>
      have held : ch.buffer.contents = bytes := by simpa [state, isOpen] using eq
      rw [← held, sound.size_contents]
      exact sound.limit_le

/-- The bytes that a sound channel holds can be held again. -/
theorem Sound.initialBuffer_state (sound : ch.Sound) :
    ∃ b, initialBuffer ch.chunkSize ch.state.buffer ch.isOpen = .ok b := by
  unfold initialBuffer state
  cases isOpen : ch.isOpen with
  | false => exact ⟨_, rfl⟩
  | true =>
    simp only [if_true, Bool.not_true, Bool.or_false]
    by_cases empty : ch.buffer.contents.isEmpty = true
    · rw [if_pos empty]
      exact ⟨_, rfl⟩
    · have small : ¬ch.chunkSize.bytes < ch.buffer.contents.size := by
        rw [sound.size_contents]
        exact Nat.not_lt.mpr sound.limit_le
      have available : Shortage.ofSize? ch.chunkSize.bytes = none := by
        rcases sound.fits.released_or_available with released | available
        · rw [released] at empty
          exact absurd rfl empty
        · exact available
      rcases ChunkBuffer.Fits.released.allocate_cases with ⟨shortage, found, -⟩ | ⟨-, b, allocated⟩
      · rw [available] at found
        contradiction
      · rw [if_neg empty, if_neg small, allocated]
        exact ⟨_, rfl⟩

/-- A channel can be restored in the state of a sound one, and without any call. -/
theorem Sound.restore_state (sound : ch.Sound) (options : ServiceOptions) (s : Service) :
    ∃ ch₁ s₁, (ch.state.rebound options).restore s = (.ok ch₁, s₁) ∧ s₁.calls = s.calls := by
  obtain ⟨b, initial⟩ := sound.initialBuffer_state
  have valid : ChunkSize.validate (.int ch.chunkSize.bytes) = .ok ch.chunkSize :=
    ChunkSize.ofInt_bytes ch.chunkSize
  have notNegative : ¬(ch.position : Int) < 0 := by omega
  have made : make options ch.blob ch.uploadId (.int ch.chunkSize.bytes) ch.position
      ch.state.buffer ch.isOpen =
        .ok ⟨options, ch.blob, ch.uploadId, ch.chunkSize, ch.position, b, ch.isOpen⟩ := by
    rw [make, valid]
    simp only [if_neg notNegative, initial, Int.toNat_natCast]
  exact ⟨_, _, Prod.ext made rfl, rfl⟩

/-- A hand-over succeeds when the session has an identifier and, if a document is read, the state is
valid and its integers are short. No call is made. -/
theorem Sound.handOver_of_identified (sound : ch.Sound) (identified : ch.uploadId ≠ "")
    (reader : Option ServiceOptions) (read : reader ≠ none → ch.state.IsShort ∧ ch.state.IsValid)
    (s : Service) :
    ∃ ch₁ s₁, ch.handOver reader s = (.ok ch₁, s₁) ∧ s₁.calls = s.calls := by
  have captured := (Snapshot.capture_eq_ok_iff sound).mpr ⟨identified, rfl⟩
  have received : ch.state.received reader = .ok (ch.state.rebound (reader.getD ch.options)) := by
    cases reader with
    | none => rfl
    | some options =>
      obtain ⟨short, valid⟩ := read (by simp)
      exact Snapshot.ofJson_eq_ok_iff.mpr ⟨short, valid, rfl⟩
  obtain ⟨ch₁, s₁, restored, calls⟩ := sound.restore_state (reader.getD ch.options) s
  refine ⟨ch₁, s₁, ?_, calls⟩
  simp only [handOver, captured, received, restored]

/-! ### Observations -/

omit [Memory] in
/-- The options play no part in whether buffered bytes fit. -/
theorem checkFits_rebound (options : ServiceOptions) (s : Snapshot) :
    Snapshot.checkFits (s.rebound options) =
      (Snapshot.checkFits s).map (Snapshot.rebound options) := by
  unfold Snapshot.checkFits
  cases buffer : s.buffer with
  | none => simp [Snapshot.rebound, buffer, Except.map]
  | some bytes =>
    by_cases large : s.chunkSize.bytes < bytes.size
    · simp [Snapshot.rebound, buffer, large, Except.map]
    · simp [Snapshot.rebound, buffer, large, Except.map]

omit [Memory] in
/-- The options play no part in how a snapshot is read. -/
theorem ofFields_rebound (options options' : ServiceOptions) (blob : Option Blob)
    (fields : Fields) :
    Snapshot.ofFields (some options') blob fields =
      (Snapshot.ofFields (some options) blob fields).map (Snapshot.rebound options') := by
  have given : ∀ o, Snapshot.model fields "options" "StorageOptions" (some o)
      (ServiceOptions.ofFields 0 none) = .ok o := fun _ => rfl
  unfold Snapshot.ofFields
  simp only [given]
  generalize Snapshot.model fields "blob_info" "BlobInfo" blob Blob.ofFields = found
  generalize both (both (Field.required fields "upload_id" _) _) _ = rest
  cases found with
  | error report => cases rest <;> rfl
  | ok found =>
    cases rest with
    | error report => rfl
    | ok values => exact checkFits_rebound options' ⟨options, found, _, _, _, _, _⟩

/-- Equal snapshots, but for the options, are taken of twins. -/
theorem Twins.capture (twins : ch.Twins ch') :
    Snapshot.capture ch' = (Snapshot.capture ch).map (Snapshot.rebound ch'.options) := by
  have fields : Snapshot.fieldsOf ch' = Snapshot.fieldsOf ch := by
    simp only [Snapshot.fieldsOf, twins.uploadId, twins.chunkSize, twins.isOpen, twins.contents,
      twins.position]
  rw [Snapshot.capture, fields, twins.blob]
  exact ofFields_rebound ch.options ch'.options (some ch.blob) _

/-- The same action on twins has the same answer, but for the options in a snapshot, and leaves
twins. -/
theorem Twins.act (twins : ch.Twins ch') (inStep : Service.InStep ch.options s ch'.options s')
    (action : Action) :
    (ch'.act action s').1 = (ch.act action s).1.map (Answer.rebound ch'.options) ∧
      Abreast ch ch' s s' (ch.act action s).2 (ch'.act action s').2 := by
  cases action with
  | operate op =>
    have paired := twins.paired_perform inStep op
    cases performed : ch.perform op s with
    | mk r rest =>
      cases performed' : ch'.perform op s' with
      | mk r' rest' =>
        rw [performed, performed'] at paired
        obtain ⟨result, abreast⟩ := paired
        obtain rfl : r' = r := result
        cases r' with
        | ok reply =>
          simp only [Channel.act, performed, performed']
          exact ⟨rfl, abreast⟩
        | error f =>
          simp only [Channel.act, performed, performed']
          exact ⟨rfl, abreast⟩
  | capture =>
    have captured := twins.capture
    cases taken : Snapshot.capture ch with
    | ok snapshot =>
      rw [taken] at captured
      simp only [Channel.act, taken, captured, Except.map]
      exact ⟨rfl, twins.abreast inStep⟩
    | error report =>
      rw [taken] at captured
      simp only [Channel.act, taken, captured, Except.map]
      exact ⟨trivial, twins.abreast inStep⟩

/-- Twins show the same, but for their options, in all that is done to them. -/
theorem Twins.observed_actions (twins : ch.Twins ch')
    (inStep : Service.InStep ch.options s ch'.options s') (row : List Action) :
    (ch'.actions row s').1.map Passage.observed =
      ((ch.actions row s).1.map Passage.observed).map (Observation.rebound ch'.options) := by
  induction row generalizing ch ch' s s' with
  | nil => rfl
  | cons action row ih =>
    obtain ⟨answer, twins₁, options, options', inStep₁, sent, sends, sends'⟩ :=
      twins.act inStep action
    rw [← options, ← options'] at inStep₁
    have later := ih twins₁ inStep₁
    rw [options'] at later
    have first : Passage.observed ⟨.act action, ch', s', (ch'.act action s').1,
        (ch'.act action s').2.1, (ch'.act action s').2.2⟩ =
          (Passage.observed ⟨.act action, ch, s, (ch.act action s).1, (ch.act action s).2.1,
            (ch.act action s).2.2⟩).rebound ch'.options := by
      simp only [Passage.observed, Observation.rebound, sends.deliveriesSince,
        sends'.deliveriesSince, answer, twins₁.isOpen, twins₁.chunkSize, twins₁.position,
        twins₁.limit, twins₁.capture, options']
    simp only [actions, List.map_cons, journey, pass]
    exact congrArg₂ List.cons first later

omit [Memory] in
/-- Snapshots that say the same differ in the identity of their options only. -/
theorem eq_rebound_of_agrees {a b : Snapshot} (h : a.agrees b = true) :
    b = a.rebound b.options := by
  simp only [Snapshot.agrees, Bool.and_eq_true, decide_eq_true_eq] at h
  obtain ⟨⟨⟨⟨⟨⟨-, blob⟩, uploadId⟩, chunkSize⟩, buffer⟩, position⟩, isOpen⟩ := h
  obtain ⟨options, _, _, _, _, _, _⟩ := b
  subst blob uploadId chunkSize buffer position isOpen
  rfl

/-- A channel that took over is a twin of the one before it, with the reader's options. -/
theorem Sound.twins_of_handOver (sound : ch.Sound) {reader : Option ServiceOptions}
    (h : ch.handOver reader s = (.ok ch', s')) :
    ch.Twins ch' ∧ ch'.options = reader.getD ch.options := by
  obtain ⟨sound', state⟩ := handOver_eq_ok sound h
  have options : ch'.options = reader.getD ch.options := congrArg Snapshot.options state
  exact ⟨⟨sound, sound', by rw [options]; exact state⟩, options⟩

/-- Restored channels cannot be told apart from the channel that they were restored from, and
channels of which equal snapshots can be taken cannot be told apart from each other. -/
theorem restored_alike (reachable : ch.Reachable) :
    (ch.uploadId ≠ "" → ch.state.IsShort → ∀ (o₂ : ServiceOptions) (s : Service),
      ∃ ch₁ s₁ ch₂ s₂, ch.handOver none s = (.ok ch₁, s₁) ∧
        ch.handOver (some o₂) s = (.ok ch₂, s₂) ∧ s₁.calls = s.calls ∧ s₂.calls = s.calls ∧
        ∀ (row : List Action) (t t₁ t₂ : Service), Service.InStep ch.options t ch.options t₁ →
          Service.InStep ch.options t o₂ t₂ →
          (ch₁.actions row t₁).1.map Passage.observed = (ch.actions row t).1.map Passage.observed ∧
          (ch₂.actions row t₂).1.map Passage.observed =
            ((ch.actions row t).1.map Passage.observed).map (Observation.rebound o₂)) ∧
    ∀ ch' : Channel, ch'.Reachable → ∀ a b, Snapshot.capture ch = .ok a →
      Snapshot.capture ch' = .ok b → a.agrees b = true →
      ∀ (row : List Action) (t t' : Service), Service.InStep ch.options t ch'.options t' →
        (ch'.actions row t').1.map Passage.observed =
          ((ch.actions row t).1.map Passage.observed).map (Observation.rebound ch'.options) := by
  have sound := reachable.sound
  constructor
  · intro identified short o₂ s
    have valid := sound.isValid_state reachable.isValid_blob identified
    obtain ⟨ch₁, s₁, taken₁, calls₁⟩ := sound.handOver_of_identified identified none
      (fun given => absurd rfl given) s
    obtain ⟨ch₂, s₂, taken₂, calls₂⟩ := sound.handOver_of_identified identified (some o₂)
      (fun _ => ⟨short, valid⟩) s
    obtain ⟨twins₁, options₁⟩ := sound.twins_of_handOver taken₁
    obtain ⟨twins₂, options₂⟩ := sound.twins_of_handOver taken₂
    rw [Option.getD_none] at options₁
    rw [Option.getD_some] at options₂
    refine ⟨ch₁, s₁, ch₂, s₂, taken₁, taken₂, calls₁, calls₂, ?_⟩
    intro row t t₁ t₂ inStep₁ inStep₂
    have same := (Twins.refl sound).observed_actions (.refl inStep₂.ready) row
    have first := twins₁.observed_actions (by rwa [options₁]) row
    have second := twins₂.observed_actions (by rwa [options₂]) row
    rw [options₁, ← same] at first
    rw [options₂] at second
    exact ⟨first, second⟩
  · intro ch' reachable' a b taken taken' agree row t t' inStep
    obtain ⟨-, rfl⟩ := (Snapshot.capture_eq_ok_iff sound).mp taken
    obtain ⟨-, rfl⟩ := (Snapshot.capture_eq_ok_iff reachable'.sound).mp taken'
    have twins : ch.Twins ch' := ⟨sound, reachable'.sound, eq_rebound_of_agrees agree⟩
    exact twins.observed_actions inStep row

end Machine

/-- A channel with nothing buffered, the one that a reader of its document restores, and another of
the same state: they show the same when bytes are written, a snapshot is taken, and they close. -/
theorem restored_alike_closed :
    ∃ (ch ch' ch₂ : Channel) (s₂ : Service), ch.Reachable ∧ ch'.Reachable ∧
      ch.handOver (some ⟨2, none, "west"⟩) {} = (.ok ch₂, s₂) ∧
      (ch₂.actions [.operate (.write (.bytes ⟨#[1, 2, 3]⟩)), .capture, .operate .close] {}).1.map
          Passage.observed =
        ((ch.actions [.operate (.write (.bytes ⟨#[1, 2, 3]⟩)), .capture, .operate .close] {}).1.map
          Passage.observed).map (Observation.rebound ⟨2, none, "west"⟩) ∧
      (ch'.actions [.operate (.write (.bytes ⟨#[1, 2, 3]⟩)), .capture, .operate .close] {}).1.map
          Passage.observed =
        ((ch.actions [.operate (.write (.bytes ⟨#[1, 2, 3]⟩)), .capture, .operate .close] {}).1.map
          Passage.observed).map (Observation.rebound ⟨1, none, "east"⟩) := by
  have valid : Blob.IsValid ⟨"b", "o", none, none⟩ := ⟨by decide, by decide⟩
  have made : make ⟨0, none, "east"⟩ ⟨"b", "o", none, none⟩ "u" (.int 262144) 5 none true =
    .ok _ := rfl
  have made' : make ⟨1, none, "east"⟩ ⟨"b", "o", none, none⟩ "u" (.int 262144) 5 none true =
    .ok _ := rfl
  have reachable := Reachable.of_make valid made
  have reachable' := Reachable.of_make valid made'
  have alike := restored_alike reachable
  have few : tooManyDigits (262144 : Nat) = false ∧ tooManyDigits (5 : Nat) = false := by
    decide +kernel
  obtain ⟨ch₁, s₁, ch₂, s₂, -, taken, -, -, same⟩ := alike.1 (by decide)
    ⟨fun _ given => (nomatch given), few.1, few.2⟩ ⟨2, none, "west"⟩ {}
  refine ⟨_, _, ch₂, s₂, reachable, reachable', taken, ?_, ?_⟩
  · exact (same _ {} {} {} ⟨.inr rfl, .inr rfl, rfl⟩ ⟨.inr rfl, .inr rfl, rfl⟩).2
  · exact alike.2 _ reachable' _ _ rfl rfl (by decide) _ {} {} ⟨.inr rfl, .inr rfl, rfl⟩

end ResumableUpload.Channel
