import ResumableUpload.Proofs.Channel.Chunking
import ResumableUpload.Proofs.Session.Ending
import ResumableUpload.Proofs.Session.Reachable

/-!
# The life cycle of a channel

A channel only goes forward. Its position does not go back, no byte that was written is taken back,
the chunk size is settled with the first byte, and a closed channel stays closed and in the same
state. All this outlasts hand-overs, and it holds although a flush does not ask whether the channel
is open: a closed channel has nothing that a flush could move.

## Main definitions

* `Channel.Precedes` — what a channel lays down for all that come after it in its session.

## Main results

* `Channel.Sound.precedes_pass`, `Channel.Sound.precedes_journey` — from single stages to journeys.
* `Channel.Sound.reach_pass` — only a write goes further.
* `Channel.lifeCycle` — any two points of the life of a channel.
-/

namespace ResumableUpload.Channel

variable {ch ch' : Channel} {s s' : Service}

/-- The second channel is one that may come after the first in the life of a session. -/
structure Precedes (ch ch' : Channel) : Prop where
  /-- The position does not go back. -/
  position_le : ch.position ≤ ch'.position
  /-- What was written stays written. -/
  reach_le : ch.reach ≤ ch'.reach
  /-- The chunk size is settled with the first byte. -/
  chunkSize_eq : 0 < ch.reach → ch'.chunkSize = ch.chunkSize
  /-- A closed channel stays in its state, whatever the options of a reader. -/
  state_eq : ch.isOpen = false → ch'.state = ch.state.rebound ch'.options

namespace Precedes

/-- A channel may come after itself. -/
theorem refl (ch : Channel) : ch.Precedes ch :=
  ⟨Nat.le_refl _, Nat.le_refl _, fun _ => rfl, fun _ => rfl⟩

/-- What comes after a later channel comes after the earlier one. -/
theorem trans {ch₁ ch₂ ch₃ : Channel} (h₁ : ch₁.Precedes ch₂) (h₂ : ch₂.Precedes ch₃) :
    ch₁.Precedes ch₃ where
  position_le := Nat.le_trans h₁.position_le h₂.position_le
  reach_le := Nat.le_trans h₁.reach_le h₂.reach_le
  chunkSize_eq := by
    intro written
    rw [h₂.chunkSize_eq (Nat.lt_of_lt_of_le written h₁.reach_le), h₁.chunkSize_eq written]
  state_eq := by
    intro closed
    have state := h₁.state_eq closed
    have isOpen : ch₂.isOpen = ch₁.isOpen := congrArg Snapshot.isOpen state
    rw [h₂.state_eq (isOpen.trans closed), state]
    rfl

/-- A closed channel stays closed. -/
theorem closed (h : ch.Precedes ch') (closed : ch.isOpen = false) : ch'.isOpen = false := by
  have isOpen : ch'.isOpen = ch.isOpen := congrArg Snapshot.isOpen (h.state_eq closed)
  rw [isOpen, closed]

end Precedes

/-! ### Single stages -/

section Machine

variable [Memory]

/-- A closed channel has nothing to advance by. -/
theorem Sound.advance_of_closed (sound : ch.Sound) (closed : ch.isOpen = false) :
    ch.advance = ch := by
  have released := sound.released_of_closed closed
  rcases ch with ⟨_, _, _, _, position, buffer, _⟩
  obtain rfl : buffer = .released := released
  rfl

/-- Nothing changes a closed channel, not even a flush. -/
theorem Sound.act_eq_of_closed (sound : ch.Sound) (closed : ch.isOpen = false) {action : Action}
    {answer : Except Problem Answer} (h : ch.act action s = (answer, ch', s')) : ch' = ch := by
  by_cases flush : ∃ final, action = .operate (.flush final)
  · obtain ⟨final, rfl⟩ := flush
    obtain ⟨op, result, eq, performed, -⟩ | ⟨eq, -⟩ := act_cases h
    · obtain rfl := Action.operate.inj eq
      obtain ⟨r, flushed⟩ : ∃ r, ch.flush final s = (r, ch', s') := by
        simp only [perform, Prod.mk.injEq] at performed
        obtain ⟨-, rfl, rfl⟩ := performed
        exact ⟨_, rfl⟩
      rcases flush_cases flushed with ⟨-, rfl, -⟩ | ⟨-, rfl, -⟩
      · exact sound.advance_of_closed closed
      · rfl
    · contradiction
  · have noFlush : ∀ final, action ≠ .operate (.flush final) := fun final eq => flush ⟨final, eq⟩
    exact (act_of_closed closed noFlush h).1

/-- An operation changes the chunk size only where nothing was written. -/
theorem Sound.chunkSize_perform (sound : ch.Sound) {op : Operation}
    {result : Except Failure Reply} (h : ch.perform op s = (result, ch', s'))
    (written : 0 < ch.reach) : ch'.chunkSize = ch.chunkSize := by
  rcases perform_cases h with ⟨payload, r, rfl, wrote, -⟩ | ⟨final, r, rfl, flushed, -⟩ |
    ⟨r, -, closed, -⟩ | ⟨size, rfl, set, -⟩ | ⟨-, rfl, -⟩
  · rcases write_cases wrote with ⟨data, -, isOpen, filled⟩ | ⟨-, rfl, -⟩
    · obtain ⟨next, sent, -, spec⟩ := fill_spec ch data 0 s sound isOpen (Nat.zero_le _) filled
      exact spec.keeps.chunkSize
    · rfl
  · rcases flush_cases flushed with ⟨-, rfl, -⟩ | ⟨-, rfl, -⟩
    · rfl
    · rfl
  · rcases close_cases closed with ⟨-, -, rfl, -⟩ | ⟨-, -, rfl, -⟩ | ⟨-, -, rfl, -⟩
    · rfl
    · rfl
    · rfl
  · obtain ⟨-, position, limit, -⟩ := setChunkSize_eq_ok set
    rw [reach] at written
    omega
  · rfl

/-- A stage changes the chunk size only where nothing was written. -/
theorem Sound.chunkSize_pass (sound : ch.Sound) {stage : Stage} {answer : Except Problem Answer}
    (h : ch.pass stage s = (answer, ch', s')) (written : 0 < ch.reach) :
    ch'.chunkSize = ch.chunkSize := by
  cases stage with
  | act action =>
    rcases act_cases h with ⟨op, result, rfl, performed, -⟩ | ⟨-, rfl, -⟩
    · exact sound.chunkSize_perform performed written
    · rfl
  | handOver reader =>
    obtain ⟨-, taken | ⟨-, rfl⟩⟩ := pass_handOver_cases h
    · exact congrArg Snapshot.chunkSize (handOver_eq_ok sound taken).2
    · rfl

/-- A stage leaves a closed channel in its state. -/
theorem Sound.state_pass (sound : ch.Sound) {stage : Stage} {answer : Except Problem Answer}
    (h : ch.pass stage s = (answer, ch', s')) (closed : ch.isOpen = false) :
    ch'.state = ch.state.rebound ch'.options := by
  cases stage with
  | act action =>
    obtain rfl := sound.act_eq_of_closed closed h
    rfl
  | handOver reader =>
    obtain ⟨-, taken | ⟨-, rfl⟩⟩ := pass_handOver_cases h
    · obtain ⟨-, state⟩ := handOver_eq_ok sound taken
      have options : ch'.options = reader.getD ch.options := congrArg Snapshot.options state
      rw [state, options]
    · rfl

/-- A channel precedes the one that a stage leaves. -/
theorem Sound.precedes_pass (sound : ch.Sound) {stage : Stage} {answer : Except Problem Answer}
    (h : ch.pass stage s = (answer, ch', s')) : ch.Precedes ch' := by
  obtain ⟨sent, -, flow, sound'⟩ := sound.flow_pass h
  refine ⟨?_, ?_, sound.chunkSize_pass h, sound.state_pass h⟩
  · rw [flow.position]
    exact Nat.le_add_right _ _
  · rw [flow.reach_eq sound sound']
    exact Nat.le_add_right _ _

/-- Only a write goes further in the object. -/
theorem Sound.reach_pass (p : Passage) (sound : p.before.Sound)
    (h : p.before.pass p.stage p.start = (p.answer, p.after, p.finish))
    (further : p.after.reach ≠ p.before.reach) :
    ∃ payload, p.stage = .act (.operate (.write payload)) := by
  obtain ⟨sent, -, flow, sound'⟩ := sound.flow_pass h
  have grown : p.after.reach = p.before.reach + p.consumed.size := flow.reach_eq sound sound'
  by_cases write : ∃ payload, p.stage = .act (.operate (.write payload))
  · exact write
  · rw [Passage.consumed_of_no_write fun payload eq => write ⟨payload, eq⟩] at grown
    exact absurd grown further

/-- The options stay, unless a reader brings others. -/
theorem Sound.options_pass (sound : ch.Sound) {stage : Stage} {answer : Except Problem Answer}
    (h : ch.pass stage s = (answer, ch', s')) (direct : ∀ o, stage ≠ .handOver (some o)) :
    ch'.options = ch.options := by
  cases stage with
  | act action =>
    obtain ⟨sent, -, options⟩ := emission_act h
    exact options
  | handOver reader =>
    obtain ⟨-, taken | ⟨-, rfl⟩⟩ := pass_handOver_cases h
    · obtain ⟨-, state⟩ := handOver_eq_ok sound taken
      cases reader with
      | none => exact congrArg Snapshot.options state
      | some o => exact absurd rfl (direct o)
    · rfl

/-! ### Journeys -/

/-- A channel precedes the one that a journey leaves. -/
theorem Sound.precedes_journey (sound : ch.Sound) {stages : List Stage} {passages : List Passage}
    (run : ch.journey stages s = (passages, ch', s')) : ch.Precedes ch' :=
  Sound.related_journey Precedes.refl Precedes.trans
    (fun _ _ _ _ _ _ _ sound passed => sound.precedes_pass passed) sound run

/-- The options stay all along a journey without other readers. -/
theorem Sound.options_journey (sound : ch.Sound) {stages : List Stage} {passages : List Passage}
    (run : ch.journey stages s = (passages, ch', s'))
    (direct : ∀ o, Stage.handOver (some o) ∉ stages) : ch'.options = ch.options := by
  refine Sound.related_journey (R := fun a b => b.options = a.options) (fun _ => rfl)
    (fun first later => later.trans first) ?_ sound run
  intro stage mem a b t u answer sound passed
  refine sound.options_pass passed ?_
  rintro o rfl
  exact direct o mem

/-- The life cycle of a channel whose session has an identifier, from any point of its life to any
later one. The position does not go back, what was written stays written, and only a write goes
further. Once anything was written the chunk size does not change. A closed channel stays closed;
the same snapshot is taken of it, but for the options of a reader; nothing can be written, the chunk
size cannot be set, and closing it does nothing at all. -/
theorem lifeCycle (reachable : ch.Reachable) (identified : ch.uploadId ≠ "") {stages : List Stage}
    {passages : List Passage} (run : ch.journey stages s = (passages, ch', s')) :
    ch.position ≤ ch'.position ∧ ch.reach ≤ ch'.reach ∧
      (∀ p ∈ passages, p.after.reach ≠ p.before.reach →
        ∃ payload, p.stage = .act (.operate (.write payload))) ∧
      (0 < ch.reach → ch'.chunkSize = ch.chunkSize) ∧
      (ch.isOpen = false → ch'.isOpen = false ∧
        (∃ a, Snapshot.capture ch = .ok a ∧
          Snapshot.capture ch' = .ok (a.rebound ch'.options) ∧
          ((∀ o, Stage.handOver (some o) ∉ stages) → Snapshot.capture ch' = .ok a)) ∧
        (∀ payload t, ch'.write payload t = (.error .closed, ch', t)) ∧
        (∀ size, ch'.setChunkSize size = .error .closed) ∧
        ∀ t, ch'.close t = (.ok (), ch', t)) := by
  have sound := reachable.sound
  obtain ⟨sent, -, flow, sound'⟩ := sound.flow_journey run
  have precedes := sound.precedes_journey run
  refine ⟨precedes.position_le, precedes.reach_le, sound.forall_journey Sound.reach_pass run,
    precedes.chunkSize_eq, fun closed => ?_⟩
  have closed' := precedes.closed closed
  have identified' : ch'.uploadId ≠ "" := by
    rw [flow.session.uploadId]
    exact identified
  have captured := (Snapshot.capture_eq_ok_iff sound).mpr ⟨identified, rfl⟩
  have captured' := (Snapshot.capture_eq_ok_iff sound').mpr ⟨identified', rfl⟩
  rw [precedes.state_eq closed] at captured'
  refine ⟨closed', ⟨ch.state, captured, captured', fun direct => ?_⟩, ?_, ?_, ?_⟩
  · rw [captured', sound.options_journey run direct]
    rfl
  · intro payload t
    simp [write, closed']
  · intro size
    simp [setChunkSize, closed']
  · intro t
    simp [close, closed']

end Machine

/-- A chunk and one more byte are written to a channel before it is closed. Closed, it is flushed,
handed over to another reader, and asked for another chunk size. -/
theorem lifeCycle_flushed :
    ∃ (data : ByteArray) (ch ch₁ ch₂ : Channel) (first second : List Passage) (s₁ s₂ : Service),
      data.size = 262145 ∧
      make ⟨0, none, "east"⟩ ⟨"b", "o", none, none⟩ "u" (.int 262144) 5 none true = .ok ch ∧
      ch.journey [.act (.operate (.write (.bytes data))), .act (.operate .close)] {} =
        (first, ch₁, s₁) ∧
      ch₁.journey [.act (.operate (.flush true)), .handOver (some ⟨1, none, "west"⟩),
          .act (.operate (.setChunkSize (.int 524288)))] s₁ = (second, ch₂, s₂) ∧
      (Service.deliveriesSince {} s₁).map (·.chunk.length) = [262144, 1] ∧
      ch₁.position = 5 + 262145 ∧ ch₁.isOpen = false ∧ 5 ≤ ch₁.reach ∧
      (∀ p ∈ first, p.after.reach ≠ p.before.reach →
        ∃ payload, p.stage = .act (.operate (.write payload))) ∧
      5 + 262145 ≤ ch₂.position ∧ ch₁.reach ≤ ch₂.reach ∧
      ch₁.chunkSize = ch.chunkSize ∧ ch₂.chunkSize = ch.chunkSize ∧ ch₂.isOpen = false ∧
      (∃ a, Snapshot.capture ch₁ = .ok a ∧ Snapshot.capture ch₂ = .ok (a.rebound ch₂.options)) ∧
      (∀ payload t, ch₂.write payload t = (.error .closed, ch₂, t)) ∧
      (∀ size, ch₂.setChunkSize size = .error .closed) ∧
      ∀ t, ch₂.close t = (.ok (), ch₂, t) := by
  -- The bytes themselves do not matter, and so they are never computed.
  obtain ⟨data, data_size⟩ : ∃ data : ByteArray, data.size = 262145 :=
    ⟨ChunkBuffer.zeros 262145, ChunkBuffer.size_zeros 262145⟩
  obtain ⟨ch, made, ch_eq⟩ : ∃ ch, make ⟨0, none, "east"⟩ ⟨"b", "o", none, none⟩ "u" (.int 262144)
      5 none true = .ok ch ∧ ch = ⟨⟨0, none, "east"⟩, ⟨"b", "o", none, none⟩, "u",
        ⟨262144, by decide, by decide⟩, 5, .released, true⟩ := ⟨_, rfl, rfl⟩
  have accepts : Service.Accepts {} ch.options := by
    rw [ch_eq]
    exact ⟨.inr rfl, fun _ mem => by contradiction⟩
  have room : ∀ d ∈ [data], ch.HasRoom d.size := by
    rw [ch_eq]
    exact fun _ _ => .inl (by decide +kernel)
  have stream_eq : data = ch.buffer.contents ++ joined [data] := by simp [ch_eq]
  obtain ⟨ch₁, s₁, ran, sends, closed, position, -⟩ := (sound_make made).sends_stream
    (by rw [ch_eq]) accepts room (.inl (List.cons_ne_nil _ _)) stream_eq
  obtain ⟨first, run⟩ : ∃ first, ch.journey [.act (.operate (.write (.bytes data))),
      .act (.operate .close)] {} = (first, ch₁, s₁) :=
    ⟨_, Prod.ext rfl ((journey_operations ch [.write (.bytes data), .close] {}).trans
      (congrArg Prod.snd ran))⟩
  obtain ⟨second, ch₂, s₂, run'⟩ : ∃ second ch₂ s₂,
      ch₁.journey [.act (.operate (.flush true)), .handOver (some ⟨1, none, "west"⟩),
        .act (.operate (.setChunkSize (.int 524288)))] s₁ = (second, ch₂, s₂) :=
    ⟨_, _, _, rfl⟩
  have reachable := Reachable.of_make ⟨by decide, by decide⟩ made
  have identified : ch.uploadId ≠ "" := by
    rw [ch_eq]
    decide
  obtain ⟨_, -, flow, -⟩ := reachable.sound.flow_journey run
  have identified₁ : ch₁.uploadId ≠ "" := by rwa [flow.session.uploadId]
  have reached : 5 ≤ ch.reach := by
    rw [ch_eq]
    exact Nat.le_refl 5
  have moved : ch₁.position = 5 + 262145 := by rw [position, data_size, ch_eq]
  have sent : (Service.deliveriesSince {} s₁).map (·.chunk.length) = [262144, 1] := by
    rw [sends.deliveriesSince, ch_eq]
    simp only [data_size, lastDelivery]
    rfl
  obtain ⟨-, reach_le, onlyWrites, settled, -⟩ := lifeCycle reachable identified run
  have reached₁ := Nat.le_trans reached reach_le
  obtain ⟨position_le, reach_le₁, -, settled₁, ends⟩ :=
    lifeCycle (reachable.journey run) identified₁ run'
  obtain ⟨closed₂, ⟨a, captured, captured₂, -⟩, write, setChunkSize, close⟩ := ends closed
  have kept := settled (Nat.lt_of_lt_of_le (by decide) reached)
  have kept₁ := settled₁ (Nat.lt_of_lt_of_le (by decide) reached₁)
  exact ⟨data, ch, ch₁, ch₂, first, second, s₁, s₂, data_size, made, run, run', sent, moved, closed,
    reached₁, onlyWrites, moved ▸ position_le, reach_le₁, kept, kept₁.trans kept, closed₂,
    ⟨a, captured, captured₂⟩, write, setChunkSize, close⟩

end ResumableUpload.Channel
