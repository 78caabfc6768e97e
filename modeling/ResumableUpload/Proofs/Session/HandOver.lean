import ResumableUpload.Proofs.Service.Sending
import ResumableUpload.Proofs.Snapshot.Json
import ResumableUpload.Session.Observation

/-!
# Hand-overs

A channel that takes over from another one is in the same state, whether it was restored from the
snapshot itself or from its document. Only the options are another reader's, and the storage of the
buffer may be another one. Nothing is sent on the way.

## Main results

* `Channel.handOver_eq_ok` — the channel that takes over.
* `Channel.sends_handOver` — nothing is sent.
-/

namespace ResumableUpload

/-- The options do not matter for how a snapshot would be taken. -/
theorem Snapshot.normalized_rebound (options : ServiceOptions) (s : Snapshot) :
    (s.rebound options).normalized = s.normalized.rebound options := rfl

namespace Channel

variable {ch ch' : Channel} {s s' : Service}

variable [Memory]

/-- Sound channels whose states differ in their options only hold the same bytes. -/
theorem contents_of_state {options : ServiceOptions} (sound : ch.Sound) (sound' : ch'.Sound)
    (h : ch'.state = ch.state.rebound options) : ch'.buffer.contents = ch.buffer.contents := by
  have isOpen : ch'.isOpen = ch.isOpen := congrArg Snapshot.isOpen h
  have buffer := congrArg Snapshot.buffer h
  simp only [state, Snapshot.rebound, isOpen] at buffer
  cases open? : ch.isOpen with
  | false =>
    rw [open?] at isOpen
    rw [sound.contents_of_closed open?, sound'.contents_of_closed isOpen]
  | true => simpa [open?] using buffer

omit [Memory] in
/-- What a reader gets is the snapshot, bound to the reader's options. -/
theorem received_eq_ok {snapshot received : Snapshot} {reader : Option ServiceOptions}
    (h : snapshot.received reader = .ok received) :
    received = snapshot.rebound (reader.getD snapshot.options) := by
  cases reader with
  | none => exact (Except.ok.inj h).symm
  | some options =>
    obtain ⟨-, -, rfl⟩ := Snapshot.ofJson_eq_ok_iff.mp h
    rfl

/-- The channel that takes over is in the same state as the one before it, but for its options. -/
theorem handOver_eq_ok {reader : Option ServiceOptions} (sound : ch.Sound)
    (h : ch.handOver reader s = (.ok ch', s')) :
    ch'.Sound ∧ ch'.state = ch.state.rebound (reader.getD ch.options) := by
  rw [handOver] at h
  split at h
  · simp at h
  next snapshot captured =>
    obtain ⟨-, rfl⟩ := (Snapshot.capture_eq_ok_iff sound).mp captured
    split at h
    · simp at h
    next received eq =>
      obtain rfl := received_eq_ok eq
      split at h
      · simp at h
      next ch₁ s₁ restored =>
        simp only [Prod.mk.injEq, Except.ok.injEq] at h
        obtain ⟨rfl, rfl⟩ := h
        obtain ⟨sound', state⟩ := Snapshot.state_of_restore restored
        rw [Snapshot.normalized_rebound, Snapshot.normalized_state] at state
        exact ⟨sound', state⟩

/-- A hand-over sends nothing, whether it succeeds or not. -/
theorem sends_handOver (ch : Channel) (reader : Option ServiceOptions) (s : Service) :
    s.Sends [] (ch.handOver reader s).2 := by
  rw [handOver]
  split
  · exact .refl s
  · split
    · exact .refl s
    next received eq =>
      have noted := (Service.Sends.refl s).note
        (.restoring received.blob.id received.position
          ((received.buffer.map ByteArray.size).getD 0) received.isOpen)
      split
      next f s₁ restored =>
        rwa [← congrArg Prod.snd restored]
      next ch₁ s₁ restored =>
        rwa [← congrArg Prod.snd restored]

end Channel

end ResumableUpload
