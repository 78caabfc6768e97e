import ResumableUpload.Proofs.Channel.Soundness
import ResumableUpload.Proofs.Service.Outlook

/-!
# The flow of bytes through a channel

What goes into a channel comes out of it in the same order: the bytes held before and the bytes
taken in since are the bytes accepted by the endpoint and the bytes held after. `Channel.Flow` says
this of two states of a channel, together with where the chunks in between were to be placed. Flows
compose, so it is enough to look at single chunks and single copies into the buffer.

## Main definitions

* `Aligned` — every chunk of a row is whole and is to be placed behind the accepted ones.
* `Channel.Flow` — what went in and out between two states of a channel.
* `Channel.Filled` — all that is known of the writing of bytes.

## Main results

* `Channel.Flow.trans` — flows compose.
* `Channel.transmit_cases`, `Channel.transmit_eq_error` — the sending of a chunk.
* `Channel.fill_spec` — the writing of bytes.
-/

namespace ResumableUpload

/-! ### Accepted bytes -/

/-- Of no chunks nothing was accepted. -/
@[simp] theorem acceptedBytes_nil : acceptedBytes [] = .empty := rfl

/-- The accepted bytes of two rows follow each other. -/
@[simp] theorem acceptedBytes_append (first second : List Delivery) :
    acceptedBytes (first ++ second) = acceptedBytes first ++ acceptedBytes second := by
  simp [acceptedBytes]

/-- The first chunk of a row counts if it was accepted. -/
theorem acceptedBytes_cons (d : Delivery) (sent : List Delivery) :
    acceptedBytes (d :: sent) =
      (if d.accepted then d.chunk.data else .empty) ++ acceptedBytes sent := by
  cases accepted : d.accepted with
  | true => simp [acceptedBytes, accepted]
  | false => simp [acceptedBytes, accepted]

/-- The chunks of a row are whole: each is all of the bytes that carry it. And each is to be placed
where the accepted chunks before it end, the first of them at `position`. -/
def Aligned : Nat → List Delivery → Prop
  | _, [] => True
  | position, d :: sent =>
    d.chunk.offset = 0 ∧ d.chunk.length = d.chunk.data.size ∧ d.chunk.position = position ∧
      Aligned (position + (acceptedBytes [d]).size) sent

/-- Two rows are aligned together when the second begins where the first one ends. -/
theorem aligned_append {position : Nat} {first second : List Delivery} :
    Aligned position (first ++ second) ↔
      Aligned position first ∧ Aligned (position + (acceptedBytes first).size) second := by
  induction first generalizing position with
  | nil => simp [Aligned]
  | cons d first ih =>
    have size_cons : (acceptedBytes (d :: first)).size =
        (acceptedBytes [d]).size + (acceptedBytes first).size := by
      rw [← List.singleton_append, acceptedBytes_append, ByteArray.size_append]
    simp only [List.cons_append, Aligned, ih, size_cons, and_assoc, Nat.add_assoc]

/-- What alignment says of a single chunk of a row. -/
theorem Aligned.chunk {position : Nat} {before after : List Delivery} {d : Delivery}
    (aligned : Aligned position (before ++ d :: after)) :
    d.chunk.offset = 0 ∧ d.chunk.length = d.chunk.data.size ∧
      d.chunk.position = position + (acceptedBytes before).size := by
  obtain ⟨-, offset, length, placed, -⟩ := aligned_append.mp aligned
  exact ⟨offset, length, placed⟩

/-- What was rejected does not count. -/
theorem acceptedBytes_filter (sent : List Delivery) :
    acceptedBytes (sent.filter (·.accepted)) = acceptedBytes sent := by
  simp only [acceptedBytes, List.filter_filter, Bool.and_self]

/-- A row stays aligned without what was rejected. -/
theorem Aligned.accepted {position : Nat} {sent : List Delivery} (aligned : Aligned position sent) :
    Aligned position (sent.filter (·.accepted)) := by
  induction sent generalizing position with
  | nil => exact trivial
  | cons d sent ih =>
    obtain ⟨offset, length, placed, aligned⟩ := aligned
    cases taken : d.accepted with
    | true =>
      rw [List.filter_cons_of_pos taken]
      exact ⟨offset, length, placed, ih aligned⟩
    | false =>
      rw [List.filter_cons_of_neg (by simp [taken])]
      simpa [acceptedBytes_cons, taken] using ih aligned

namespace Channel

/-! ### Flows -/

/-- Between two states of the channel of a session the bytes `taken` went in and the chunks `sent`
out. -/
structure Flow (ch : Channel) (taken : ByteArray) (sent : List Delivery) (ch' : Channel) :
    Prop where
  /-- It is the same session. -/
  session : ch.SameSession ch'
  /-- Nothing is lost, added or moved. -/
  stream : acceptedBytes sent ++ ch'.buffer.contents = ch.buffer.contents ++ taken
  /-- The position counts the bytes accepted. -/
  position : ch'.position = ch.position + (acceptedBytes sent).size
  /-- The chunks were to be placed one behind the other. -/
  aligned : Aligned ch.position sent

/-- Where nothing happens nothing flows. -/
theorem Flow.refl (ch : Channel) : ch.Flow .empty [] ch where
  session := .refl ch
  stream := by simp
  position := by simp
  aligned := trivial

/-- Flows compose. -/
theorem Flow.trans {ch₁ ch₂ ch₃ : Channel} {taken₁ taken₂ : ByteArray} {sent₁ sent₂ : List Delivery}
    (h₁ : ch₁.Flow taken₁ sent₁ ch₂) (h₂ : ch₂.Flow taken₂ sent₂ ch₃) :
    ch₁.Flow (taken₁ ++ taken₂) (sent₁ ++ sent₂) ch₃ where
  session := h₁.session.trans h₂.session
  stream := by
    calc acceptedBytes (sent₁ ++ sent₂) ++ ch₃.buffer.contents
        = acceptedBytes sent₁ ++ (acceptedBytes sent₂ ++ ch₃.buffer.contents) := by
          rw [acceptedBytes_append, ByteArray.append_assoc]
      _ = acceptedBytes sent₁ ++ ch₂.buffer.contents ++ taken₂ := by
          rw [h₂.stream, ByteArray.append_assoc]
      _ = ch₁.buffer.contents ++ (taken₁ ++ taken₂) := by
          rw [h₁.stream, ByteArray.append_assoc]
  position := by
    rw [h₂.position, h₁.position, acceptedBytes_append, ByteArray.size_append, Nat.add_assoc]
  aligned := by
    refine aligned_append.mpr ⟨h₁.aligned, ?_⟩
    rw [← h₁.position]
    exact h₂.aligned

/-- A flow without going in after another one. -/
theorem Flow.trans_idle {ch₁ ch₂ ch₃ : Channel} {taken : ByteArray} {sent₁ sent₂ : List Delivery}
    (h₁ : ch₁.Flow taken sent₁ ch₂) (h₂ : ch₂.Flow .empty sent₂ ch₃) :
    ch₁.Flow taken (sent₁ ++ sent₂) ch₃ := by
  have flow := h₁.trans h₂
  rwa [ByteArray.append_empty] at flow

/-- Another channel of the session with the same bytes at the same place continues a flow. -/
theorem Flow.of_same {ch ch' : Channel} (session : ch.SameSession ch')
    (position : ch'.position = ch.position)
    (contents : ch'.buffer.contents = ch.buffer.contents) : ch.Flow .empty [] ch' where
  session := session
  stream := by simp [contents]
  position := by simp [position]
  aligned := trivial

/-- What was rejected is no part of a flow. -/
theorem Flow.accepted {ch ch' : Channel} {taken : ByteArray} {sent : List Delivery}
    (flow : ch.Flow taken sent ch') : ch.Flow taken (sent.filter (·.accepted)) ch' where
  session := flow.session
  stream := by rw [acceptedBytes_filter, flow.stream]
  position := by rw [acceptedBytes_filter, flow.position]
  aligned := flow.aligned.accepted

/-- The reach grows by the bytes taken in. -/
theorem Flow.reach_eq [Memory] {ch ch' : Channel} {taken : ByteArray} {sent : List Delivery}
    (flow : ch.Flow taken sent ch') (sound : ch.Sound) (sound' : ch'.Sound) :
    ch'.reach = ch.reach + taken.size := by
  have sizes := congrArg ByteArray.size flow.stream
  rw [ByteArray.size_append, ByteArray.size_append, sound.size_contents,
    sound'.size_contents] at sizes
  rw [reach, reach, flow.position]
  omega

variable {ch : Channel} {final : Bool} {s s' : Service}

/-- The chunk made up of the buffered bytes, once it was sent. -/
def delivery (ch : Channel) (final accepted : Bool) : Delivery :=
  ⟨ch.options, ch.chunk final, accepted⟩

/-- A chunk that is accepted goes out. -/
theorem Sound.flow_advance [Memory] (sound : ch.Sound) (final : Bool) :
    ch.Flow .empty [ch.delivery final true] ch.advance where
  session := ⟨rfl, rfl⟩
  stream := by simp [acceptedBytes_cons, delivery, chunk]
  position := by simp [acceptedBytes_cons, delivery, chunk, sound.size_contents]
  aligned := ⟨rfl, sound.size_contents.symm, rfl, trivial⟩

/-- A chunk that is not accepted stays. -/
theorem Sound.flow_rejected [Memory] (sound : ch.Sound) (final : Bool) :
    ch.Flow .empty [ch.delivery final false] ch where
  session := .refl ch
  stream := by simp [acceptedBytes_cons, delivery]
  position := by simp [acceptedBytes_cons, delivery]
  aligned := ⟨rfl, sound.size_contents.symm, rfl, trivial⟩

/-! ### Sending a chunk -/

/-- What sending the buffered bytes does: there is no handle, and none can be had; or the chunk is
sent, and the endpoint decides. -/
theorem transmit_cases {result : Except Failure Unit} (h : ch.transmit final s = (result, s')) :
    (¬ s.HasHandle ch.options ∧ (∃ f, result = .error f) ∧ s.Sends [] s') ∨
      ∃ outcome : Outcome, result = outcome.toExcept ∧ s'.HasHandle ch.options ∧
        s.Sends [ch.delivery final outcome.isAccept] s' := by
  have asked := ((Service.Sends.refl s).note (.sendingChunk ch.blob.id ch.position ch.buffer.limit
    final)).trans (Service.sends_requestHandle ch.options _)
  rw [transmit] at h
  split at h
  next f s₁ eq =>
    rw [eq] at asked
    simp only [Prod.mk.injEq] at h
    obtain ⟨rfl, rfl⟩ := h
    refine .inl ⟨fun known => ?_, ⟨f, rfl⟩, asked⟩
    have granted := Service.requestHandle_of_hasHandle (o := ch.options)
      (s := s.note (.sendingChunk ch.blob.id ch.position ch.buffer.limit final)) known
    rw [eq] at granted
    simp at granted
  next s₁ eq =>
    rw [eq] at asked
    have known : s₁.HasHandle ch.options := Service.hasHandle_of_requestHandle eq
    have sends := asked.trans (Service.sends_ask ch.options (.upload (ch.chunk final)) s₁)
    rw [Service.upload_eq, Prod.mk.injEq] at h
    obtain ⟨rfl, rfl⟩ := h
    exact .inr ⟨_, rfl, known.ask_upload _, sends⟩

/-- When the buffered bytes are accepted, one chunk was sent. -/
theorem sends_of_transmit_ok (h : ch.transmit final s = (.ok (), s')) :
    s.Sends [ch.delivery final true] s' := by
  rcases transmit_cases h with ⟨-, ⟨f, failed⟩, -⟩ | ⟨outcome, ended, -, sends⟩
  · contradiction
  · cases outcome with
    | accept reply => exact sends
    | fail f => contradiction

/-- Why sending the buffered bytes fails: there is no handle, and nothing is sent; or there is one,
and the chunk is rejected. -/
theorem transmit_eq_error {f : Failure} (h : ch.transmit final s = (.error f, s')) :
    (¬ s.HasHandle ch.options ∧ s.Sends [] s') ∨
      (s'.HasHandle ch.options ∧ s.Sends [ch.delivery final false] s') := by
  rcases transmit_cases h with ⟨missing, -, sends⟩ | ⟨outcome, ended, known, sends⟩
  · exact .inl ⟨missing, sends⟩
  · cases outcome with
    | accept reply => contradiction
    | fail g => exact .inr ⟨known, sends⟩

/-- When sending the buffered bytes fails, no chunk was accepted: nothing was sent, or the one chunk
sent is rejected. -/
theorem sends_of_transmit_error {f : Failure} (h : ch.transmit final s = (.error f, s')) :
    s.Sends [] s' ∨ s.Sends [ch.delivery final false] s' :=
  (transmit_eq_error h).imp And.right And.right

/-! ### Writing bytes -/

variable [Memory]

/-- What writing the bytes of `data` from `offset` on does when it deals with those before `next`:
they flow into the channel, full chunks that do not end the object flow out, and if nothing fails
all of `data` is dealt with, every chunk accepted, and less than a chunk is left. -/
structure Filled (ch : Channel) (data : ByteArray) (offset next : Nat) (sent : List Delivery)
    (result : Except Failure Nat) (ch' : Channel) : Prop where
  /-- Writing goes forward. -/
  offset_le : offset ≤ next
  /-- Writing ends with the data. -/
  next_le : next ≤ data.size
  /-- The bytes dealt with flow in. -/
  flow : ch.Flow (data.extract offset next) sent ch'
  /-- The channel stays sound. -/
  sound : ch'.Sound
  /-- Its session and its settings stay. -/
  keeps : ch.Keeps ch'
  /-- What is sent are full chunks of the session. -/
  full : ∀ d ∈ sent, d.options = ch.options ∧ d.chunk.uploadId = ch.uploadId ∧
    d.chunk.length = ch.chunkSize.bytes ∧ d.chunk.last = false
  /-- When nothing fails all bytes are dealt with. -/
  complete : ∀ count, result = .ok count → count = data.size ∧ next = data.size ∧
    (∀ d ∈ sent, d.accepted = true) ∧ ch'.buffer.limit < ch.chunkSize.bytes

/-- The reach grows by the bytes dealt with. -/
theorem Filled.reach_eq {ch ch' : Channel} {data : ByteArray} {offset next : Nat}
    {sent : List Delivery} {result : Except Failure Nat}
    (filled : ch.Filled data offset next sent result ch') (sound : ch.Sound) :
    ch'.reach = ch.reach + (next - offset) := by
  rw [filled.flow.reach_eq sound filled.sound, ByteArray.size_extract,
    Nat.min_eq_left filled.next_le]

omit [Memory] in
/-- The buffer takes no more than there is. -/
theorem add_room_le {data : ByteArray} {offset : Nat} (offset_le : offset ≤ data.size) :
    offset + ch.room data offset ≤ data.size := by
  have room_le : ch.room data offset ≤ data.size - offset := Nat.min_le_right _ _
  omega

/-- Taking bytes into storage keeps an open channel sound, and they flow in. -/
theorem Sound.flow_take (sound : ch.Sound) (isOpen : ch.isOpen = true) {data : ByteArray}
    {offset : Nat} (offset_le : offset ≤ data.size) {buffer : ChunkBuffer}
    (allocated : ch.buffer.allocate ch.chunkSize.bytes = .ok buffer) :
    Sound { ch with buffer := buffer.take data offset (ch.room data offset) } ∧
      ch.Flow (data.extract offset (offset + ch.room data offset)) []
        { ch with buffer := buffer.take data offset (ch.room data offset) } := by
  obtain ⟨fits, storage, limit, contents⟩ := sound.fits.of_allocate allocated
  have room_le : ch.room data offset ≤ ch.chunkSize.bytes - ch.buffer.limit := Nat.min_le_left _ _
  have limit_le := sound.limit_le
  have room : buffer.limit + ch.room data offset ≤ ch.chunkSize.bytes := by omega
  obtain ⟨fits', contents'⟩ := fits.take storage room (add_room_le offset_le)
  constructor
  · refine ⟨fits', fun closed => ?_⟩
    rw [isOpen] at closed
    contradiction
  · refine ⟨⟨rfl, rfl⟩, ?_, by simp, trivial⟩
    rw [acceptedBytes_nil, ByteArray.empty_append, contents', contents]

omit [Memory] in
/-- The chunk of a full buffer is a full chunk of the session. -/
theorem full_delivery (full : ch.buffer.limit = ch.chunkSize.bytes) (accepted : Bool) :
    ∀ d ∈ [ch.delivery false accepted], d.options = ch.options ∧ d.chunk.uploadId = ch.uploadId ∧
      d.chunk.length = ch.chunkSize.bytes ∧ d.chunk.last = false := by
  intro d mem
  rw [List.mem_singleton] at mem
  subst mem
  exact ⟨rfl, rfl, full, rfl⟩

/-- The writing of bytes to an open channel. -/
theorem fill_spec (ch : Channel) (data : ByteArray) (offset : Nat) (s : Service) (sound : ch.Sound)
    (isOpen : ch.isOpen = true) (offset_le : offset ≤ data.size) {result : Except Failure Nat}
    {ch' : Channel} {s' : Service} (h : ch.fill data offset s = (result, ch', s')) :
    ∃ (next : Nat) (sent : List Delivery), s.Sends sent s' ∧
      ch.Filled data offset next sent result ch' := by
  -- One case for each way through the definition; only the two calls of itself add to the flow.
  fun_induction fill ch data offset s with
  | case1 ch offset s full f s₁ eq =>
    simp only [Prod.mk.injEq] at h
    obtain ⟨rfl, rfl, rfl⟩ := h
    have full : ch.buffer.limit = ch.chunkSize.bytes := Nat.le_antisymm sound.limit_le full
    obtain sends | sends := sends_of_transmit_error eq
    · refine ⟨offset, [], sends, Nat.le_refl _, offset_le, ?_, sound, .refl ch, by simp, by simp⟩
      rw [ByteArray.extract_same]
      exact .refl ch
    · refine ⟨offset, _, sends, Nat.le_refl _, offset_le, ?_, sound, .refl ch,
        full_delivery full false, by simp⟩
      rw [ByteArray.extract_same]
      exact sound.flow_rejected false
  | case2 ch offset s full s₁ eq ih =>
    have full : ch.buffer.limit = ch.chunkSize.bytes := Nat.le_antisymm sound.limit_le full
    obtain ⟨next, sent, sends, filled⟩ := ih sound.advance isOpen offset_le h
    refine ⟨next, _, (sends_of_transmit_ok eq).trans sends, filled.offset_le, filled.next_le, ?_,
      filled.sound, (keeps_advance ch).trans filled.keeps, ?_, ?_⟩
    · have flow := (sound.flow_advance false).trans filled.flow
      rwa [ByteArray.empty_append] at flow
    · intro d mem
      obtain mem | mem := List.mem_append.mp mem
      · exact full_delivery full true d mem
      · exact filled.full d mem
    · intro count ok
      obtain ⟨count_eq, next_eq, accepted, small⟩ := filled.complete count ok
      refine ⟨count_eq, next_eq, fun d mem => ?_, small⟩
      obtain mem | mem := List.mem_append.mp mem
      · rw [List.mem_singleton] at mem
        rw [mem, delivery]
      · exact accepted d mem
  | case3 ch offset s small rest shortage eq =>
    simp only [Prod.mk.injEq] at h
    obtain ⟨rfl, rfl, rfl⟩ := h
    refine ⟨offset, [], .refl s, Nat.le_refl _, offset_le, ?_, sound, .refl ch, by simp, by simp⟩
    rw [ByteArray.extract_same]
    exact .refl ch
  | case4 ch offset s small rest buffer eq count ih =>
    have given : offset + ch.room data offset ≤ data.size := add_room_le offset_le
    obtain ⟨sound', taken⟩ := sound.flow_take isOpen offset_le eq
    obtain ⟨next, sent, sends, filled⟩ := ih sound' isOpen given h
    have offset_le' : offset ≤ offset + count := Nat.le_add_right _ _
    refine ⟨next, sent, sends, Nat.le_trans offset_le' filled.offset_le, filled.next_le, ?_,
      filled.sound, (keeps_buffer ch _).trans filled.keeps, filled.full, filled.complete⟩
    have flow := taken.trans filled.flow
    rwa [List.nil_append, ← ByteArray.extract_eq_extract_append_extract (offset + count) offset_le'
      filled.offset_le] at flow
  | case5 ch offset s small done =>
    simp only [Prod.mk.injEq] at h
    obtain ⟨rfl, rfl, rfl⟩ := h
    have offset_eq : offset = data.size := by omega
    refine ⟨offset, [], .refl s, Nat.le_refl _, offset_le, ?_, sound, .refl ch, by simp, ?_⟩
    · rw [ByteArray.extract_same]
      exact .refl ch
    · intro count ok
      simp only [Except.ok.injEq] at ok
      exact ⟨ok ▸ offset_eq, offset_eq, by simp, by omega⟩

end Channel

end ResumableUpload
