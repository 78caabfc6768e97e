import ResumableUpload.Proofs.Channel.Flow
import ResumableUpload.Proofs.Service.Outlook
import ResumableUpload.Proofs.Session.HandOver

/-!
# Channels in equal states

Two sound channels in equal states are **twins**, whatever their storage holds beyond the bytes in
use, and whether they have storage at all. Doing the same to twins, with services in step, has the
same results, sends the same chunks, and leaves twins and services in step.

## Main definitions

* `Channel.Twins` — channels in equal states, but for their options.
* `Channel.Abreast`, `Channel.Paired` — two ways from twins to twins, and those with equal results.

## Main results

* `Channel.Twins.paired_fill` — writing bytes.
* `Channel.Twins.paired_perform` — any operation.
-/

namespace ResumableUpload.Channel

variable [Memory]

/-- The channels are sound, and their states are equal but for the options. -/
structure Twins (ch ch' : Channel) : Prop where
  /-- The first channel is sound. -/
  sound : ch.Sound
  /-- The second channel is sound. -/
  sound' : ch'.Sound
  /-- The states are equal. -/
  state : ch'.state = ch.state.rebound ch'.options

namespace Twins

variable {ch ch' : Channel}

/-- A channel is a twin of its own. -/
theorem refl (sound : ch.Sound) : ch.Twins ch := ⟨sound, sound, rfl⟩

/-- Twins have the same blob. -/
theorem blob (twins : ch.Twins ch') : ch'.blob = ch.blob := congrArg Snapshot.blob twins.state

/-- Twins belong to the same session. -/
theorem uploadId (twins : ch.Twins ch') : ch'.uploadId = ch.uploadId :=
  congrArg Snapshot.uploadId twins.state

/-- Twins have chunks of the same size. -/
theorem chunkSize (twins : ch.Twins ch') : ch'.chunkSize = ch.chunkSize :=
  congrArg Snapshot.chunkSize twins.state

/-- Twins are at the same position. -/
theorem position (twins : ch.Twins ch') : ch'.position = ch.position :=
  congrArg Snapshot.position twins.state

/-- Twins are both open or both closed. -/
theorem isOpen (twins : ch.Twins ch') : ch'.isOpen = ch.isOpen :=
  congrArg Snapshot.isOpen twins.state

/-- Twins hold the same bytes. -/
theorem contents (twins : ch.Twins ch') : ch'.buffer.contents = ch.buffer.contents :=
  contents_of_state twins.sound twins.sound' twins.state

/-- Twins hold as many bytes. -/
theorem limit (twins : ch.Twins ch') : ch'.buffer.limit = ch.buffer.limit := by
  rw [← twins.sound'.size_contents, ← twins.sound.size_contents, twins.contents]

/-- Twins would send the same chunk. -/
theorem chunk (twins : ch.Twins ch') (final : Bool) : ch'.chunk final = ch.chunk final := by
  simp only [Channel.chunk, twins.uploadId, twins.contents, twins.position, twins.limit]

/-- Sound channels with the same fields and the same bytes are twins. -/
theorem of_fields (sound : ch.Sound) (sound' : ch'.Sound) (blob : ch'.blob = ch.blob)
    (uploadId : ch'.uploadId = ch.uploadId) (chunkSize : ch'.chunkSize = ch.chunkSize)
    (position : ch'.position = ch.position) (isOpen : ch'.isOpen = ch.isOpen)
    (contents : ch'.buffer.contents = ch.buffer.contents) : ch.Twins ch' :=
  ⟨sound, sound', by
    simp only [Channel.state, Snapshot.rebound, blob, uploadId, chunkSize, position, isOpen,
      contents]⟩

/-- Twins that advance are twins. -/
theorem advance (twins : ch.Twins ch') : ch.advance.Twins ch'.advance :=
  .of_fields twins.sound.advance twins.sound'.advance twins.blob twins.uploadId twins.chunkSize
    (by simp [twins.position, twins.limit]) twins.isOpen (by simp)

/-- Twins that are shut are twins. -/
theorem shut (twins : ch.Twins ch') : ch.shut.Twins ch'.shut :=
  .of_fields (sound_shut ch) (sound_shut ch') twins.blob twins.uploadId twins.chunkSize
    twins.position rfl rfl

end Twins

/-- Two ways from twins and services in step, each with a channel and a service at its end: again
the channels are twins, with the options they had, and the services in step, and the chunks sent are
the same. -/
structure Abreast (ch ch' : Channel) (s s' : Service) (x x' : Channel × Service) : Prop where
  /-- The channels are twins. -/
  twins : x.1.Twins x'.1
  /-- The first channel keeps its options. -/
  options : x.1.options = ch.options
  /-- The second channel keeps its options. -/
  options' : x'.1.options = ch'.options
  /-- The services are in step. -/
  inStep : Service.InStep ch.options x.2 ch'.options x'.2
  /-- The chunks sent are the same. -/
  sends : ∃ sent, s.Sends sent x.2 ∧ s'.Sends (sent.map (Delivery.rebound ch'.options)) x'.2

/-- Two ways to do the same that have the same result. -/
def Paired {α : Type} (ch ch' : Channel) (s s' : Service)
    (x x' : Except Failure α × Channel × Service) : Prop :=
  x'.1 = x.1 ∧ Abreast ch ch' s s' x.2 x'.2

variable {ch ch' : Channel} {s s' : Service}

/-- Where nothing is done nothing comes apart. -/
theorem Twins.abreast (twins : ch.Twins ch') (inStep : Service.InStep ch.options s ch'.options s') :
    Abreast ch ch' s s' (ch, s) (ch', s') :=
  ⟨twins, rfl, rfl, inStep, [], .refl s, .refl s'⟩

/-- Where nothing is done and the same is answered, nothing comes apart. -/
theorem Twins.paired_idle {α : Type} (twins : ch.Twins ch')
    (inStep : Service.InStep ch.options s ch'.options s') (r : Except Failure α) :
    Paired ch ch' s s' (r, ch, s) (r, ch', s') :=
  ⟨rfl, twins.abreast inStep⟩

/-- Results that are turned into others are still equal. -/
theorem Paired.map {α β : Type} {x x' : Except Failure α × Channel × Service}
    (paired : Paired ch ch' s s' x x') (f : α → β) :
    Paired ch ch' s s' (x.1.map f, x.2) (x'.1.map f, x'.2) :=
  ⟨congrArg (Except.map f) paired.1, paired.2⟩

/-- Twins send their buffered bytes with the same outcome. -/
theorem Twins.transmit (twins : ch.Twins ch')
    (inStep : Service.InStep ch.options s ch'.options s') (final : Bool) :
    ∃ (r : Except Failure Unit) (s₁ s₁' : Service) (sent : List Delivery),
      ch.transmit final s = (r, s₁) ∧ ch'.transmit final s' = (r, s₁') ∧
      Service.InStep ch.options s₁ ch'.options s₁' ∧
      s.Sends sent s₁ ∧ s'.Sends (sent.map (Delivery.rebound ch'.options)) s₁' := by
  have noted := inStep.note (.sendingChunk ch.blob.id ch.position ch.buffer.limit final)
    (.sendingChunk ch'.blob.id ch'.position ch'.buffer.limit final)
  obtain ⟨t, had, ready, uploads⟩ := Service.requestHandle_of_ready noted.ready
  obtain ⟨t', had', ready', uploads'⟩ := Service.requestHandle_of_ready noted.ready'
  have inStep₁ : Service.InStep ch.options t ch'.options t' :=
    ⟨ready, ready', by rw [uploads', noted.uploads, uploads]⟩
  obtain ⟨outcome, s₁, s₁', uploaded, uploaded', inStep₂, sends, sends'⟩ :=
    inStep₁.upload (ch.chunk final)
  have asked := Service.sends_requestHandle ch.options
    (s.note (.sendingChunk ch.blob.id ch.position ch.buffer.limit final))
  have asked' := Service.sends_requestHandle ch'.options
    (s'.note (.sendingChunk ch'.blob.id ch'.position ch'.buffer.limit final))
  rw [had] at asked
  rw [had'] at asked'
  refine ⟨outcome.toExcept, s₁, s₁', [⟨ch.options, ch.chunk final, outcome.isAccept⟩], ?_, ?_,
    inStep₂,
    (((Service.Sends.refl s).note _).trans asked).trans sends,
    (((Service.Sends.refl s').note _).trans asked').trans sends'⟩
  · rw [Channel.transmit, had]
    exact uploaded
  · rw [Channel.transmit, had', ← uploaded', twins.chunk]

/-- Twins flush alike. -/
theorem Twins.paired_flush (twins : ch.Twins ch')
    (inStep : Service.InStep ch.options s ch'.options s') (final : Bool) :
    Paired ch ch' s s' (ch.flush final s) (ch'.flush final s') := by
  obtain ⟨r, s₁, s₁', sent, eq, eq', inStep₁, sends, sends'⟩ := twins.transmit inStep final
  cases r with
  | error f =>
    simp only [flush, eq, eq']
    exact ⟨rfl, twins, rfl, rfl, inStep₁, sent, sends, sends'⟩
  | ok done =>
    simp only [flush, eq, eq']
    exact ⟨rfl, twins.advance, rfl, rfl, inStep₁, sent, sends, sends'⟩

/-- What follows after chunks that were sent alike. -/
theorem Paired.after {α : Type} {ch₁ ch₁' : Channel} {s₁ s₁' : Service}
    {x x' : Except Failure α × Channel × Service} {sent : List Delivery}
    (paired : Paired ch₁ ch₁' s₁ s₁' x x') (options : ch₁.options = ch.options)
    (options' : ch₁'.options = ch'.options) (sends : s.Sends sent s₁)
    (sends' : s'.Sends (sent.map (Delivery.rebound ch'.options)) s₁') :
    Paired ch ch' s s' x x' := by
  obtain ⟨result, twins, kept, kept', inStep, more, next, next'⟩ := paired
  rw [options, options'] at inStep
  rw [options'] at next'
  refine ⟨result, twins, kept.trans options, kept'.trans options', inStep, sent ++ more,
    sends.trans next, ?_⟩
  rw [List.map_append]
  exact sends'.trans next'

/-- Twins have room for the same bytes. -/
theorem Twins.room (twins : ch.Twins ch') (data : ByteArray) (offset : Nat) :
    ch'.room data offset = ch.room data offset := by
  simp only [Channel.room, twins.chunkSize, twins.limit]

/-- Twins that take the same bytes into their buffers are twins. -/
theorem Twins.take (twins : ch.Twins ch') (isOpen : ch.isOpen = true) {data : ByteArray}
    {offset : Nat} (offset_le : offset ≤ data.size) {b b' : ChunkBuffer}
    (allocated : ch.buffer.allocate ch.chunkSize.bytes = .ok b)
    (allocated' : ch'.buffer.allocate ch'.chunkSize.bytes = .ok b') :
    Twins { ch with buffer := b.take data offset (ch.room data offset) }
      { ch' with buffer := b'.take data offset (ch'.room data offset) } := by
  obtain ⟨sound, flow⟩ := twins.sound.flow_take isOpen offset_le allocated
  obtain ⟨sound', flow'⟩ := twins.sound'.flow_take (twins.isOpen.trans isOpen) offset_le allocated'
  refine .of_fields sound sound' twins.blob twins.uploadId twins.chunkSize twins.position
    twins.isOpen ?_
  have held := flow.stream
  have held' := flow'.stream
  rw [acceptedBytes_nil, ByteArray.empty_append] at held held'
  rw [held, held', twins.room, twins.contents]

/-- Twins write bytes alike. -/
theorem Twins.paired_fill (twins : ch.Twins ch') (isOpen : ch.isOpen = true) (data : ByteArray)
    (offset : Nat) (inStep : Service.InStep ch.options s ch'.options s') :
    Paired ch ch' s s' (ch.fill data offset s) (ch'.fill data offset s') := by
  -- The first channel goes through the definition; the second one takes the same way each time.
  fun_induction fill ch data offset s generalizing ch' s' with
  | case1 ch offset s full f s₁ eq =>
    obtain ⟨r, t, t', sent, sent₁, sent₁', inStep₁, sends, sends'⟩ := twins.transmit inStep false
    rw [eq] at sent₁
    obtain ⟨rfl, rfl⟩ := Prod.mk.inj sent₁
    have full' : ch'.chunkSize.bytes ≤ ch'.buffer.limit := by rwa [twins.chunkSize, twins.limit]
    rw [fill, if_pos full', sent₁']
    exact (twins.paired_idle inStep₁ (.error f)).after rfl rfl sends sends'
  | case2 ch offset s full s₁ eq ih =>
    obtain ⟨r, t, t', sent, sent₁, sent₁', inStep₁, sends, sends'⟩ := twins.transmit inStep false
    rw [eq] at sent₁
    obtain ⟨rfl, rfl⟩ := Prod.mk.inj sent₁
    have full' : ch'.chunkSize.bytes ≤ ch'.buffer.limit := by rwa [twins.chunkSize, twins.limit]
    rw [fill.eq_1 ch', if_pos full', sent₁']
    exact (ih twins.advance isOpen inStep₁).after rfl rfl sends sends'
  | case3 ch offset s small rest shortage eq =>
    have small' : ¬ch'.chunkSize.bytes ≤ ch'.buffer.limit := by rwa [twins.chunkSize, twins.limit]
    have eq' : ch'.buffer.allocate ch'.chunkSize.bytes = .error shortage := by
      obtain ⟨-, found⟩ := twins.sound.fits.allocate_eq_error eq
      rcases twins.sound'.fits.allocate_cases with ⟨shortage', found', failed⟩ | ⟨none, -⟩
      · rw [twins.chunkSize, found, Option.some.injEq] at found'
        rw [failed, found']
      · rw [twins.chunkSize, found] at none
        contradiction
    rw [fill, if_neg small', if_pos rest, eq']
    exact twins.paired_idle inStep _
  | case4 ch offset s small rest buffer eq count =>
    rename_i ih
    have small' : ¬ch'.chunkSize.bytes ≤ ch'.buffer.limit := by rwa [twins.chunkSize, twins.limit]
    obtain ⟨buffer', eq'⟩ : ∃ buffer', ch'.buffer.allocate ch'.chunkSize.bytes = .ok buffer' := by
      rcases twins.sound'.fits.allocate_cases with ⟨shortage, found', -⟩ | ⟨-, allocated⟩
      · rcases twins.sound.fits.allocate_cases with ⟨_, -, failed⟩ | ⟨none, -⟩
        · rw [eq] at failed
          contradiction
        · rw [twins.chunkSize, none] at found'
          contradiction
      · exact allocated
    rw [fill.eq_1 ch', if_neg small', if_pos rest, eq']
    dsimp only
    rw [twins.room]
    have taken := twins.take isOpen (Nat.le_of_lt rest) eq eq'
    rw [twins.room] at taken
    exact (ih taken isOpen inStep).after rfl rfl (.refl s) (.refl s')
  | case5 ch offset s small done =>
    have small' : ¬ch'.chunkSize.bytes ≤ ch'.buffer.limit := by rwa [twins.chunkSize, twins.limit]
    rw [fill, if_neg small', if_neg done]
    exact twins.paired_idle inStep _

/-- Twins write alike. -/
theorem Twins.paired_write (twins : ch.Twins ch')
    (inStep : Service.InStep ch.options s ch'.options s') (payload : Payload) :
    Paired ch ch' s s' (ch.write payload s) (ch'.write payload s') := by
  unfold write
  rw [twins.isOpen]
  cases isOpen : ch.isOpen with
  | false => exact twins.paired_idle inStep _
  | true =>
    cases payload with
    | bytes data => exact twins.paired_fill isOpen data 0 inStep
    | noBytes typeName => exact twins.paired_idle inStep _
    | scattered => exact twins.paired_idle inStep _

/-- Twins close alike. -/
theorem Twins.paired_close (twins : ch.Twins ch')
    (inStep : Service.InStep ch.options s ch'.options s') :
    Paired ch ch' s s' (ch.close s) (ch'.close s') := by
  unfold close
  rw [twins.isOpen]
  cases isOpen : ch.isOpen with
  | false => exact twins.paired_idle inStep _
  | true =>
    obtain ⟨result, twins₁, options, options', inStep₁, sent, sends, sends'⟩ :=
      twins.paired_flush inStep true
    simp only [Bool.not_true, Bool.false_eq_true, if_false]
    cases flushed : ch.flush true s with
    | mk r rest =>
      cases flushed' : ch'.flush true s' with
      | mk r' rest' =>
        obtain ⟨ch₁, s₁⟩ := rest
        obtain ⟨ch₁', s₁'⟩ := rest'
        simp only [flushed, flushed'] at result twins₁ options options' inStep₁ sends sends'
        subst result
        cases r' with
        | error f => exact ⟨rfl, twins₁, options, options', inStep₁, sent, sends, sends'⟩
        | ok done =>
          exact ⟨rfl, twins₁.shut, options, options', inStep₁.noteAll _ _, sent, sends.noteAll _,
            sends'.noteAll _⟩

/-- Twins change the size of their chunks alike. -/
theorem Twins.setChunkSize (twins : ch.Twins ch') (size : Value) :
    (∃ f, ch.setChunkSize size = .error f ∧ ch'.setChunkSize size = .error f) ∨
      ∃ ch₁ ch₁', ch.setChunkSize size = .ok ch₁ ∧ ch'.setChunkSize size = .ok ch₁' ∧
        ch₁.Twins ch₁' ∧ ch₁.options = ch.options ∧ ch₁'.options = ch'.options := by
  unfold Channel.setChunkSize
  rw [twins.isOpen, twins.position, twins.limit]
  cases isOpen : ch.isOpen with
  | false => exact .inl ⟨.closed, rfl, rfl⟩
  | true =>
    simp only [Bool.not_true, Bool.false_eq_true, if_false]
    by_cases touched : ch.position ≠ 0 ∨ ch.buffer.limit ≠ 0
    · rw [if_pos touched, if_pos touched]
      exact .inl ⟨_, rfl, rfl⟩
    · rw [if_neg touched, if_neg touched]
      cases ChunkSize.validate size with
      | error fault => exact .inl ⟨_, rfl, rfl⟩
      | ok chunkSize =>
        refine .inr ⟨_, _, rfl, rfl, ?_, rfl, rfl⟩
        exact .of_fields ⟨.released, fun _ => rfl⟩ ⟨.released, fun _ => rfl⟩ twins.blob
          twins.uploadId rfl rfl rfl rfl

/-- Doing an operation to twins does the same. -/
theorem Twins.paired_perform (twins : ch.Twins ch')
    (inStep : Service.InStep ch.options s ch'.options s') (op : Operation) :
    Paired ch ch' s s' (ch.perform op s) (ch'.perform op s') := by
  cases op with
  | write payload => exact (twins.paired_write inStep payload).map Reply.wrote
  | flush final => exact (twins.paired_flush inStep final).map fun _ => Reply.done
  | close => exact (twins.paired_close inStep).map fun _ => Reply.done
  | setChunkSize size =>
    rcases twins.setChunkSize size with
      ⟨f, eq, eq'⟩ | ⟨ch₁, ch₁', eq, eq', twins₁, options, options'⟩
    · simp only [perform, eq, eq']
      exact twins.paired_idle inStep _
    · simp only [perform, eq, eq']
      exact ⟨rfl, twins₁, options, options', inStep, [], .refl s, .refl s'⟩
  | leave failed =>
    cases failed with
    | true => exact twins.paired_idle inStep _
    | false => exact (twins.paired_close inStep).map fun _ => Reply.done

end ResumableUpload.Channel
