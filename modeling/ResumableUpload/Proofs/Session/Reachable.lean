import ResumableUpload.Proofs.Session.Stream
import ResumableUpload.Proofs.SignedUrl

/-!
# Reachable channels

Every channel that can occur is sound, and its blob is valid.

## Main results

* `Channel.Reachable.sound`, `Channel.Reachable.isValid_blob` — what holds of all channels.
-/

namespace ResumableUpload

variable [Memory]

/-- The blob of a new channel is valid. -/
theorem Origin.isValid_blob {origin : Origin} (valid : origin.IsValid) {s s' : Service}
    {ch : Channel} (h : origin.create s = (.ok ch, s')) : ch.blob.IsValid := by
  cases origin with
  | made options blob uploadId chunkSize position buffered isOpen =>
    have made := mapError_eq_ok_iff.mp (congrArg Prod.fst h)
    obtain ⟨size, buffer, -, -, -, rfl⟩ := Channel.make_eq_ok made
    exact valid
  | opened options blob session requested =>
    obtain ⟨uploadId, chunkSize, rfl⟩ := Channel.openBlob_eq_ok h
    exact valid
  | openedSigned options url requested =>
    obtain ⟨blob, uploadId, chunkSize, named, rfl⟩ := Channel.openSigned_eq_ok h
    exact SignedUrl.isValid_blob named
  | restored snapshot =>
    have restored := mapError_eq_ok_iff.mp (congrArg Prod.fst h)
    obtain ⟨-, state⟩ := Snapshot.state_of_restore (Prod.ext restored rfl)
    have blob : ch.blob = snapshot.blob := congrArg Snapshot.blob state
    rw [blob]
    exact valid.blob

namespace Channel.Reachable

variable {ch : Channel}

/-- A channel that is made for a valid blob is reachable. -/
theorem of_make {options : ServiceOptions} {blob : Blob} {uploadId : String} {chunkSize : Value}
    {position : Int} {buffered : Option ByteArray} {isOpen : Bool} (valid : blob.IsValid)
    (h : make options blob uploadId chunkSize position buffered isOpen = .ok ch) :
    ch.Reachable := by
  have made : (Origin.made options blob uploadId chunkSize position buffered isOpen).create {} =
      (.ok ch, {}) := Prod.ext (mapError_eq_ok_iff.mpr h) rfl
  refine .created ?_ made
  exact valid

/-- An operation leaves a reachable channel. -/
theorem perform (reachable : ch.Reachable) {op : Operation} {result : Except Failure Reply}
    {ch' : Channel} {s s' : Service} (h : ch.perform op s = (result, ch', s')) :
    ch'.Reachable := by
  have passed := reachable.passed (.act (.operate op)) s
  rw [pass, act, h] at passed
  cases result <;> exact passed

/-- A journey leaves a reachable channel. -/
theorem journey (reachable : ch.Reachable) {stages : List Stage} {passages : List Passage}
    {ch' : Channel} {s s' : Service} (run : ch.journey stages s = (passages, ch', s')) :
    ch'.Reachable := by
  induction stages generalizing ch s passages with
  | nil =>
    obtain ⟨-, rfl, -⟩ := run
    exact reachable
  | cons stage stages ih =>
    obtain ⟨answer, ch₁, s₁, later, passed, more, -⟩ := journey_cons run
    have next := reachable.passed stage s
    rw [passed] at next
    exact ih next more

/-- Every channel is sound. -/
theorem sound (reachable : ch.Reachable) : ch.Sound := by
  induction reachable with
  | created _ h => exact (Origin.create_spec h).1
  | passed _ stage s ih =>
    obtain ⟨sent, -, -, sound⟩ := ih.flow_pass rfl
    exact sound

/-- The blob of every channel is valid. -/
theorem isValid_blob (reachable : ch.Reachable) : ch.blob.IsValid := by
  induction reachable with
  | created valid h => exact Origin.isValid_blob valid h
  | @passed ch reachable stage s ih =>
    obtain ⟨sent, -, flow, -⟩ : ∃ sent, _ ∧ _ ∧ (ch.pass stage s).2.1.Sound :=
      reachable.sound.flow_pass rfl
    have blob : (ch.pass stage s).2.1.blob = ch.blob := flow.session.blob
    rw [blob]
    exact ih

end Channel.Reachable

end ResumableUpload
