import ResumableUpload.Proofs.Channel.Operations

/-!
# Chunks of a stream

When everything is accepted, the chunks that a channel sends depend on the stream of bytes only, not
on how it is cut into writes: they are the full slices of the stream, and when the channel is closed
the rest of it, which may be empty, as the final chunk.

## Main definitions

* `Delivery.slice`, `Channel.lastDelivery` — the chunks of a stream as they are sent.
* `Channel.HasRoom` — storage for what is written can be had.
* `Channel.Written` — all that is known of writes that are accepted.

## Main results

* `Aligned.eq_slices` — full chunks in a row are the slices of the stream.
* `Channel.performAll_writes`, `Channel.performAll_closed` — writes, and writes before closing.
* `Channel.Written.stream_eq`, `Channel.Sound.sends_stream` — what they send, and what is left.
* `Channel.write_of_shortage` — without storage nothing is written.
* `Channel.chunks_of_stream` — the chunks of a stream.
-/

namespace ResumableUpload

/-! ### Slices -/

/-- The full slice of a stream with a given number, as it is sent and accepted. -/
def Delivery.slice (o : ServiceOptions) (uploadId : String) (size position : Nat)
    (stream : ByteArray) (number : Nat) : Delivery :=
  ⟨o, ⟨uploadId, stream.extract (number * size) ((number + 1) * size), 0, position + number * size,
    size, false⟩, true⟩

/-- The slices of a stream behind its first one are those of the rest of it. -/
theorem Delivery.slice_succ (o : ServiceOptions) (uploadId : String) {size position : Nat}
    {first rest : ByteArray} (full : first.size = size) (number : Nat) :
    slice o uploadId size position (first ++ rest) (number + 1) =
      slice o uploadId size (position + size) rest number := by
  have shift : ∀ n, (n + 1) * size = size + n * size := fun n => by rw [Nat.succ_mul, Nat.add_comm]
  have data : (first ++ rest).extract ((number + 1) * size) ((number + 1 + 1) * size) =
      rest.extract (number * size) ((number + 1) * size) := by
    rw [shift (number + 1), shift number, ByteArray.extract_append_size_add' full.symm]
  rw [slice, slice, data, shift number, Nat.add_assoc]

/-- Full chunks in a row that are accepted are the slices of the stream, as many as there are. -/
theorem Aligned.eq_slices {o : ServiceOptions} {uploadId : String} {size position : Nat}
    {sent : List Delivery} (aligned : Aligned position sent)
    (full : ∀ d ∈ sent, d.options = o ∧ d.chunk.uploadId = uploadId ∧ d.chunk.length = size ∧
      d.chunk.last = false) (accepted : ∀ d ∈ sent, d.accepted = true) (rest : ByteArray) :
    sent = (List.range sent.length).map
        (Delivery.slice o uploadId size position (acceptedBytes sent ++ rest)) ∧
      (acceptedBytes sent).size = sent.length * size := by
  induction sent generalizing position with
  | nil => exact ⟨rfl, by simp⟩
  | cons d sent ih =>
    obtain ⟨offset, length, placed, aligned⟩ := aligned
    obtain ⟨options, id, size_eq, last⟩ := full d List.mem_cons_self
    have taken := accepted d List.mem_cons_self
    have eq : d = ⟨o, ⟨uploadId, d.chunk.data, 0, position, size, false⟩, true⟩ := by
      obtain ⟨_, ⟨_, data, _, _, _, _⟩, _⟩ := d
      subst offset placed options id size_eq last taken
      rfl
    have bytes : acceptedBytes [d] = d.chunk.data := by simp [acceptedBytes_cons, taken]
    have split : acceptedBytes (d :: sent) = d.chunk.data ++ acceptedBytes sent := by
      rw [acceptedBytes_cons, if_pos taken]
    have data_size : d.chunk.data.size = size := by rw [← length, size_eq]
    rw [bytes, data_size] at aligned
    obtain ⟨later, later_size⟩ := ih aligned (fun e mem => full e (List.mem_cons_of_mem d mem))
      fun e mem => accepted e (List.mem_cons_of_mem d mem)
    constructor
    · rw [List.length_cons, List.range_succ_eq_map, List.map_cons, List.map_map, split,
        ByteArray.append_assoc]
      refine List.cons_eq_cons.mpr ⟨?_, ?_⟩
      · rw [Delivery.slice, Nat.zero_mul, Nat.one_mul,
          ByteArray.extract_append_eq_left data_size.symm]
        exact eq
      · refine later.trans (List.map_congr_left fun number _ => ?_)
        exact (Delivery.slice_succ o uploadId data_size number).symm
    · rw [split, ByteArray.size_append, later_size, data_size, List.length_cons, Nat.succ_mul,
        Nat.add_comm]

namespace Channel

variable {ch ch' : Channel} {s s' : Service}

/-! ### Writes that are accepted -/

section Machine

variable [Memory]

/-- The storage that the writing of so many bytes needs can be had. -/
def HasRoom (ch : Channel) (count : Nat) : Prop :=
  Shortage.ofSize? ch.chunkSize.bytes = none ∨ count = 0

/-- Whether storage can be had depends on the chunk size only. -/
theorem Keeps.hasRoom (keeps : ch.Keeps ch') {count : Nat} (room : ch.HasRoom count) :
    ch'.HasRoom count := by
  rw [HasRoom, keeps.chunkSize]
  exact room

omit [Memory] in
/-- Sending succeeds when everything is accepted. -/
theorem transmit_of_accepts (accepts : s.Accepts ch.options) (final : Bool) :
    ∃ s₁, ch.transmit final s = (.ok (), s₁) ∧ s₁.Accepts ch.options := by
  have noted : (s.note (.sendingChunk ch.blob.id ch.position ch.buffer.limit final)).Accepts
      ch.options := ⟨accepts.ready, accepts.uploads⟩
  obtain ⟨s₁, had, ready, uploads⟩ := Service.requestHandle_of_ready noted.ready
  have accepts₁ : s₁.Accepts ch.options := ⟨ready, by rw [uploads]; exact accepts.uploads⟩
  obtain ⟨s₂, uploaded, accepts₂⟩ := accepts₁.upload (ch.chunk final)
  refine ⟨s₂, ?_, accepts₂⟩
  rw [transmit, had]
  exact uploaded

/-- Writing succeeds when everything is accepted and storage can be had. -/
theorem fill_of_accepts (sound : ch.Sound) (isOpen : ch.isOpen = true) (data : ByteArray)
    {offset : Nat} (offset_le : offset ≤ data.size) (accepts : s.Accepts ch.options)
    (room : ch.HasRoom (data.size - offset)) :
    ∃ ch' s', ch.fill data offset s = (.ok data.size, ch', s') ∧ s'.Accepts ch.options := by
  fun_induction fill ch data offset s with
  | case1 ch offset s full f s₁ eq =>
    obtain ⟨s₂, sent, -⟩ := transmit_of_accepts accepts false
    rw [eq] at sent
    simp at sent
  | case2 ch offset s full s₁ eq ih =>
    obtain ⟨s₂, sent, accepts₂⟩ := transmit_of_accepts accepts false
    rw [eq] at sent
    obtain ⟨-, rfl⟩ := Prod.mk.inj sent
    exact ih sound.advance isOpen offset_le accepts₂ room
  | case3 ch offset s small rest shortage eq =>
    obtain ⟨-, found⟩ := sound.fits.allocate_eq_error eq
    rcases room with available | nothing
    · rw [available] at found
      contradiction
    · omega
  | case4 ch offset s small rest buffer eq count ih =>
    obtain ⟨sound', -⟩ := sound.flow_take isOpen offset_le eq
    refine ih sound' isOpen (add_room_le offset_le) accepts (room.imp_right fun nothing => ?_)
    omega
  | case5 ch offset s small done =>
    have offset_eq : offset = data.size := by omega
    rw [offset_eq]
    exact ⟨ch, s, rfl, accepts⟩

/-- All that is known of writes that are accepted. -/
structure Written (ch : Channel) (ds : List ByteArray) (sent : List Delivery) (ch' : Channel) :
    Prop where
  /-- The bytes written flow in. -/
  flow : ch.Flow (joined ds) sent ch'
  /-- The channel stays sound. -/
  sound : ch'.Sound
  /-- Its session and its settings stay. -/
  keeps : ch.Keeps ch'
  /-- What is sent are full chunks of the session. -/
  full : ∀ d ∈ sent, d.options = ch.options ∧ d.chunk.uploadId = ch.uploadId ∧
    d.chunk.length = ch.chunkSize.bytes ∧ d.chunk.last = false
  /-- They are accepted. -/
  accepted : ∀ d ∈ sent, d.accepted = true
  /-- A write leaves less than a full chunk in the buffer. -/
  small : ds ≠ [] ∨ ch.buffer.limit < ch.chunkSize.bytes → ch'.buffer.limit < ch.chunkSize.bytes

/-- Without writes nothing happens. -/
theorem Written.nil (sound : ch.Sound) : ch.Written [] [] ch :=
  ⟨.refl ch, sound, .refl ch, by simp, by simp, by simp⟩

/-- Other writes go on behind a write, whether it dealt with all of its bytes or broke off. What was
rejected on the way does not count. -/
theorem Written.after {ch₁ : Channel} {data : ByteArray} {next : Nat} {ds es : List ByteArray}
    {first later : List Delivery} {result : Except Failure Nat}
    (filled : ch.Filled data 0 next first result ch₁) (written : ch₁.Written ds later ch')
    (whole : data.extract 0 next ++ joined ds = joined es)
    (small : ch'.buffer.limit < ch.chunkSize.bytes) :
    ch.Written es (first.filter (·.accepted) ++ later) ch' := by
  have flow := filled.flow.accepted.trans written.flow
  rw [whole] at flow
  have full := written.full
  rw [filled.keeps.options, filled.keeps.uploadId, filled.keeps.chunkSize] at full
  refine ⟨flow, written.sound, filled.keeps.trans written.keeps, ?_, ?_, fun _ => small⟩
  · intro d mem
    rcases List.mem_append.mp mem with mem | mem
    · exact filled.full d (List.mem_filter.mp mem).1
    · exact full d mem
  · intro d mem
    rcases List.mem_append.mp mem with mem | mem
    · exact (List.mem_filter.mp mem).2
    · exact written.accepted d mem

/-- A write before others. -/
theorem Written.cons {ch₁ : Channel} {data : ByteArray} {ds : List ByteArray}
    {first later : List Delivery} (filled : ch.Filled data 0 data.size first (.ok data.size) ch₁)
    (written : ch₁.Written ds later ch') : ch.Written (data :: ds) (first ++ later) ch' := by
  obtain ⟨-, -, accepted, small⟩ := filled.complete data.size rfl
  have later_small := written.small
  rw [filled.keeps.chunkSize] at later_small
  have whole : data.extract 0 data.size ++ joined ds = joined (data :: ds) := by
    rw [ByteArray.extract_zero_size, joined_cons]
  have joint := Written.after filled written whole (later_small (.inr small))
  rwa [List.filter_eq_self.mpr accepted] at joint

/-- Writes succeed when everything is accepted and storage can be had. -/
theorem performAll_writes (sound : ch.Sound) (isOpen : ch.isOpen = true)
    (accepts : s.Accepts ch.options) {ds : List ByteArray} (room : ∀ d ∈ ds, ch.HasRoom d.size) :
    ∃ ch' s' sent, ch.performAll (ds.map fun d => .write (.bytes d)) s =
        (ds.map fun d => .ok (.wrote d.size), ch', s') ∧
      s'.Accepts ch.options ∧ s.Sends sent s' ∧ ch.Written ds sent ch' := by
  induction ds generalizing ch s with
  | nil => exact ⟨ch, s, [], rfl, accepts, .refl s, .nil sound⟩
  | cons data ds ih =>
    obtain ⟨ch₁, s₁, eq, accepts₁⟩ := fill_of_accepts sound isOpen data (Nat.zero_le _) accepts
      (room data List.mem_cons_self)
    obtain ⟨next, first, sends₁, filled⟩ := fill_spec ch data 0 s sound isOpen (Nat.zero_le _) eq
    obtain ⟨-, rfl, -⟩ := filled.complete data.size rfl
    have keeps := filled.keeps
    have room₁ : ∀ d ∈ ds, ch₁.HasRoom d.size :=
      fun d mem => keeps.hasRoom (room d (List.mem_cons_of_mem data mem))
    obtain ⟨ch', s', later, run, accepts', sends', written⟩ := ih filled.sound
      (keeps.isOpen.trans isOpen) (by rwa [keeps.options]) room₁
    rw [keeps.options] at accepts'
    refine ⟨ch', s', first ++ later, ?_, accepts', sends₁.trans sends', .cons filled written⟩
    have wrote : ch.perform (.write (.bytes data)) s = (.ok (.wrote data.size), ch₁, s₁) := by
      simp only [perform, write_bytes isOpen, eq, Except.map]
    simp only [List.map_cons, performAll, wrote, run]

/-! ### Closing -/

omit [Memory] in
/-- Closing an open channel succeeds when everything is accepted. -/
theorem close_of_accepts (isOpen : ch.isOpen = true) (accepts : s.Accepts ch.options) :
    ∃ s', ch.close s = (.ok (), ch.advance.shut, s') ∧ s.Sends [ch.delivery true true] s' := by
  obtain ⟨s₁, sent, -⟩ := transmit_of_accepts accepts true
  refine ⟨_, ?_, (sends_of_transmit_ok sent).noteAll
    [.channelClosed ch.advance.position, .uploadFinalized ch.advance.blob.id ch.advance.position]⟩
  simp only [close, isOpen, Bool.not_true, Bool.false_eq_true, if_false, flush, sent]

/-- Writes and closing, when everything is accepted. -/
theorem performAll_closed (sound : ch.Sound) (isOpen : ch.isOpen = true)
    (accepts : s.Accepts ch.options) {ds : List ByteArray} (room : ∀ d ∈ ds, ch.HasRoom d.size) :
    ∃ ch₁ s' sent, ch.performAll ((ds.map fun d => .write (.bytes d)) ++ [.close]) s =
        ((ds.map fun d => .ok (.wrote d.size)) ++ [.ok .done], ch₁.advance.shut, s') ∧
      s.Sends (sent ++ [ch₁.delivery true true]) s' ∧ ch.Written ds sent ch₁ := by
  obtain ⟨ch₁, s₁, sent, run, accepts₁, sends, written⟩ :=
    performAll_writes sound isOpen accepts room
  have keeps := written.keeps
  obtain ⟨s', closed, closing⟩ :=
    close_of_accepts (keeps.isOpen.trans isOpen) (by rwa [keeps.options])
  refine ⟨ch₁, s', sent, ?_, sends.trans closing, written⟩
  rw [performAll_append, run]
  simp only [performAll, perform, closed, Except.map]

/-- The final chunk of a stream as it is sent and accepted. -/
def lastDelivery (o : ServiceOptions) (uploadId : String) (size position : Nat)
    (stream : ByteArray) : Delivery :=
  ⟨o, ⟨uploadId, stream.extract (stream.size / size * size) stream.size, 0,
    position + stream.size / size * size, stream.size % size, true⟩, true⟩

/-- Writes that leave less than a chunk send the slices of the stream, and the rest of it is left:
the final chunk, and the channel that is closed with it, are those of the stream. -/
theorem Written.stream_eq {ch₁ : Channel} {ds : List ByteArray} {sent : List Delivery}
    (written : ch.Written ds sent ch₁) (small : ch₁.buffer.limit < ch.chunkSize.bytes)
    {stream : ByteArray} (stream_eq : stream = ch.buffer.contents ++ joined ds) :
    sent ++ [ch₁.delivery true true] = (List.range (stream.size / ch.chunkSize.bytes)).map
          (Delivery.slice ch.options ch.uploadId ch.chunkSize.bytes ch.position stream) ++
        [lastDelivery ch.options ch.uploadId ch.chunkSize.bytes ch.position stream] ∧
      ch₁.advance.shut = ({ ch with position := ch.position + stream.size } : Channel).shut := by
  have keeps := written.keeps
  obtain ⟨slices, sent_size⟩ :=
    written.flow.aligned.eq_slices written.full written.accepted ch₁.buffer.contents
  have whole : acceptedBytes sent ++ ch₁.buffer.contents = stream := by
    rw [stream_eq]
    exact written.flow.stream
  have stream_size : stream.size = sent.length * ch.chunkSize.bytes + ch₁.buffer.limit := by
    rw [← whole, ByteArray.size_append, sent_size, written.sound.size_contents]
  -- Less than a chunk is left, so that the full chunks sent are as many as the stream has.
  have number : stream.size / ch.chunkSize.bytes = sent.length := by
    rw [stream_size, Nat.mul_comm, Nat.mul_add_div ch.chunkSize.pos, Nat.div_eq_of_lt small,
      Nat.add_zero]
  have rest : stream.size % ch.chunkSize.bytes = ch₁.buffer.limit := by
    rw [stream_size, Nat.mul_comm, Nat.mul_add_mod, Nat.mod_eq_of_lt small]
  have position : ch₁.position = ch.position + sent.length * ch.chunkSize.bytes := by
    rw [written.flow.position, sent_size]
  have contents : stream.extract (sent.length * ch.chunkSize.bytes) stream.size =
      ch₁.buffer.contents := by
    rw [← whole, ByteArray.extract_append_eq_right sent_size.symm ByteArray.size_append]
  have last : ch₁.delivery true true =
      lastDelivery ch.options ch.uploadId ch.chunkSize.bytes ch.position stream := by
    simp only [delivery, chunk, lastDelivery, number, rest, contents, position, keeps.options,
      keeps.uploadId]
  rw [whole] at slices
  constructor
  · rw [number, ← slices, ← last]
  · simp only [shut, advance, keeps.options, keeps.blob, keeps.uploadId, keeps.chunkSize, position,
      stream_size, Nat.add_assoc]

/-- A write, when everything is accepted, sends the slices of the stream that the bytes held and
those written make up. -/
theorem Sound.sends_slices (sound : ch.Sound) (isOpen : ch.isOpen = true)
    (accepts : s.Accepts ch.options) {data : ByteArray} (room : ch.HasRoom data.size)
    {stream : ByteArray} (stream_eq : stream = ch.buffer.contents ++ data) :
    ∃ ch' s', ch.perform (.write (.bytes data)) s = (.ok (.wrote data.size), ch', s') ∧
      s.Sends ((List.range (stream.size / ch.chunkSize.bytes)).map
        (Delivery.slice ch.options ch.uploadId ch.chunkSize.bytes ch.position stream)) s' := by
  have each : ∀ d ∈ [data], ch.HasRoom d.size := by simpa using room
  obtain ⟨ch', s', sent, run, -, sends, written⟩ := performAll_writes sound isOpen accepts each
  have whole : stream = ch.buffer.contents ++ joined [data] := by simp [stream_eq]
  obtain ⟨chunks, -⟩ := written.stream_eq (written.small (.inl (List.cons_ne_nil _ _))) whole
  rw [(List.append_inj' chunks rfl).1] at sends
  simp only [List.map_cons, List.map_nil, performAll, Prod.mk.injEq, List.cons.injEq] at run
  exact ⟨ch', s', Prod.ext run.1.1 (Prod.ext run.2.1 run.2.2), sends⟩

/-- Writes and closing, when everything is accepted: the slices of the stream and the rest of it are
sent. -/
theorem Sound.sends_stream (sound : ch.Sound) (isOpen : ch.isOpen = true)
    (accepts : s.Accepts ch.options) {ds : List ByteArray} (room : ∀ d ∈ ds, ch.HasRoom d.size)
    (write : ds ≠ [] ∨ ch.buffer.limit < ch.chunkSize.bytes) {stream : ByteArray}
    (stream_eq : stream = ch.buffer.contents ++ joined ds) :
    ∃ ch' s', ch.performAll ((ds.map fun d => .write (.bytes d)) ++ [.close]) s =
        ((ds.map fun d => .ok (.wrote d.size)) ++ [.ok .done], ch', s') ∧
      s.Sends ((List.range (stream.size / ch.chunkSize.bytes)).map
          (Delivery.slice ch.options ch.uploadId ch.chunkSize.bytes ch.position stream) ++
        [lastDelivery ch.options ch.uploadId ch.chunkSize.bytes ch.position stream]) s' ∧
      ch'.isOpen = false ∧ ch'.position = ch.position + stream.size ∧ ch'.buffer.limit = 0 := by
  obtain ⟨ch₁, s', sent, run, sends, written⟩ := performAll_closed sound isOpen accepts room
  obtain ⟨chunks, ended⟩ := written.stream_eq (written.small write) stream_eq
  rw [chunks] at sends
  rw [ended] at run
  exact ⟨_, s', run, sends, rfl, rfl, rfl⟩

/-- Without storage for a chunk no byte can be written, and everything stays as it is. -/
theorem write_of_shortage (sound : ch.Sound) (isOpen : ch.isOpen = true) {shortage : Shortage}
    (found : Shortage.ofSize? ch.chunkSize.bytes = some shortage) {data : ByteArray}
    (offered : 0 < data.size) :
    ch.write (.bytes data) s = (.error (shortageFailure shortage), ch, s) := by
  have failed : ch.buffer.allocate ch.chunkSize.bytes = .error shortage := by
    obtain ⟨other, found', failed⟩ | ⟨available, -⟩ := sound.fits.allocate_cases
    · rw [found, Option.some.injEq] at found'
      rw [found', failed]
    · rw [found] at available
      contradiction
  obtain ⟨released, -⟩ := sound.fits.allocate_eq_error failed
  have small : ¬ ch.chunkSize.bytes ≤ ch.buffer.limit := by
    rw [released, ChunkBuffer.limit_released, Nat.not_le]
    exact ch.chunkSize.pos
  rw [write_bytes isOpen, fill, if_neg small, if_pos offered, failed]

/-! ### New channels -/

/-- A new channel can hold what fits into a chunk if storage for it can be had. -/
theorem initialBuffer_of_room {size : ChunkSize} {buffered : Option ByteArray}
    (fits : (buffered.getD .empty).size ≤ size.bytes)
    (room : Shortage.ofSize? size.bytes = none ∨ (buffered.getD .empty).size = 0) :
    ∃ buffer, initialBuffer size buffered true = .ok buffer := by
  cases buffered with
  | none => exact ⟨.released, rfl⟩
  | some data =>
    rw [Option.getD_some] at fits room
    by_cases nothing : data.size = 0
    · refine ⟨.released, ?_⟩
      simp [initialBuffer, ByteArray.isEmpty, nothing]
    · have small : ¬ size.bytes < data.size := by omega
      have available := room.resolve_right nothing
      have fresh : ChunkBuffer.released.Fits size.bytes := .released
      obtain ⟨shortage, found, -⟩ | ⟨-, buffer, allocated⟩ := fresh.allocate_cases
      · rw [available] at found
        contradiction
      · refine ⟨buffer.take data 0 data.size, ?_⟩
        simp [initialBuffer, ByteArray.isEmpty, nothing, small, allocated]

omit [Memory] in
/-- What is offered is no longer than all of it. -/
theorem size_le_size_joined {ds : List ByteArray} {d : ByteArray} (mem : d ∈ ds) :
    d.size ≤ (joined ds).size := by
  induction ds with
  | nil => simp at mem
  | cons first ds ih =>
    rw [joined_cons, ByteArray.size_append]
    rcases List.mem_cons.mp mem with rfl | mem
    · exact Nat.le_add_right _ _
    · exact Nat.le_trans (ih mem) (Nat.le_add_left _ _)

/-- The chunks of a stream do not depend on how it is cut into writes. A new channel holds the
beginning of the stream, and the rest of it is written piece by piece before the channel is closed.
When everything is accepted, and storage for a chunk can be had or the stream is empty, the slices
of the stream and then the rest of it are sent. -/
theorem chunks_of_stream (options : ServiceOptions) (blob : Blob) (uploadId : String)
    (size : ChunkSize) (position : Nat) (buffered : Option ByteArray) (ds : List ByteArray)
    (stream : ByteArray) {s : Service} (fits : (buffered.getD .empty).size ≤ size.bytes)
    (write : ds ≠ [] ∨ (buffered.getD .empty).size < size.bytes)
    (stream_eq : stream = buffered.getD .empty ++ joined ds)
    (room : Shortage.ofSize? size.bytes = none ∨ stream.size = 0) (accepts : s.Accepts options) :
    ∃ ch ch' s', make options blob uploadId (.int size.bytes) position buffered true = .ok ch ∧
      ch.performAll ((ds.map fun d => .write (.bytes d)) ++ [.close]) s =
        ((ds.map fun d => .ok (.wrote d.size)) ++ [.ok .done], ch', s') ∧
      s.deliveriesSince s' = (List.range (stream.size / size.bytes)).map
          (Delivery.slice options uploadId size.bytes position stream) ++
        [lastDelivery options uploadId size.bytes position stream] ∧
      ch'.isOpen = false ∧ ch'.position = position + stream.size ∧ ch'.buffer.limit = 0 := by
  have whole : stream.size = (buffered.getD .empty).size + (joined ds).size := by
    rw [stream_eq, ByteArray.size_append]
  obtain ⟨buffer, initial⟩ := initialBuffer_of_room fits (room.imp_right fun _ => by omega)
  have made : make options blob uploadId (.int size.bytes) position buffered true =
      .ok ⟨options, blob, uploadId, size, position, buffer, true⟩ := by
    have notNegative : ¬ (position : Int) < 0 := by omega
    simp [make, ChunkSize.validate, notNegative, initial]
  have sound := sound_make made
  obtain ⟨-, -, contents⟩ := initialBuffer_eq_ok initial
  rw [if_pos rfl] at contents
  have limit : buffer.limit = (buffered.getD .empty).size := by
    rw [← contents]
    exact sound.size_contents.symm
  have enough : ∀ d ∈ ds,
      HasRoom ⟨options, blob, uploadId, size, position, buffer, true⟩ d.size := by
    intro d mem
    refine room.imp_right fun empty => ?_
    have size_le := size_le_size_joined mem
    omega
  have stream_eq' : stream = buffer.contents ++ joined ds := by rw [contents, stream_eq]
  obtain ⟨ch', s', run, sends, rest⟩ :=
    sound.sends_stream rfl accepts enough (by rwa [limit]) stream_eq'
  exact ⟨_, ch', s', made, run, sends.deliveriesSince, rest⟩

end Machine

/-- One byte is held from the beginning and a whole chunk of bytes is written. A full chunk is sent,
and the last byte makes up the final chunk. -/
theorem chunks_of_stream_full :
    ∃ data stream ch ch' s', data.size = 262144 ∧ stream = ⟨#[1]⟩ ++ data ∧
      make ⟨0, none, "east"⟩ ⟨"b", "o", none, none⟩ "u" (.int 262144) 5 (some ⟨#[1]⟩) true =
        .ok ch ∧
      ch.performAll [.write (.bytes data), .write (.bytes .empty), .close] {} =
        ([.ok (.wrote 262144), .ok (.wrote 0), .ok .done], ch', s') ∧
      Service.deliveriesSince {} s' =
        [⟨⟨0, none, "east"⟩, ⟨"u", stream.extract 0 262144, 0, 5, 262144, false⟩, true⟩,
          ⟨⟨0, none, "east"⟩, ⟨"u", stream.extract 262144 262145, 0, 262149, 1, true⟩, true⟩] ∧
      ch'.isOpen = false ∧ ch'.position = 5 + 262145 ∧ ch'.buffer.limit = 0 := by
  -- The bytes themselves do not matter, and so they are never computed.
  obtain ⟨data, data_size⟩ : ∃ data : ByteArray, data.size = 262144 :=
    ⟨ChunkBuffer.zeros 262144, ChunkBuffer.size_zeros 262144⟩
  obtain ⟨stream, stream_eq⟩ : ∃ stream : ByteArray, stream = ⟨#[1]⟩ ++ data := ⟨_, rfl⟩
  have stream_size : stream.size = 262145 := by
    rw [stream_eq, ByteArray.size_append, data_size]
    rfl
  have available : Shortage.ofSize? 262144 = none := by decide +kernel
  have accepts : Service.Accepts {} ⟨0, none, "east"⟩ := ⟨.inr rfl, fun _ mem => by contradiction⟩
  obtain ⟨ch, ch', s', made, run, sent, rest⟩ :=
    chunks_of_stream ⟨0, none, "east"⟩ ⟨"b", "o", none, none⟩ "u" ⟨262144, by decide, by decide⟩ 5
      (some ⟨#[1]⟩) [data, .empty] stream (by decide) (.inl (List.cons_ne_nil _ _))
      (by simp [stream_eq]) (.inl available) accepts
  simp only [lastDelivery, stream_size] at sent rest
  simp only [List.map_cons, List.map_nil, data_size] at run
  exact ⟨data, stream, ch, ch', s', data_size, stream_eq, made, run, sent, rest⟩

/-- There is no storage for the first byte of a chunk that addresses do not reach: writing it fails,
and what is sent at the end is empty. -/
theorem chunks_of_stream_unreachable :
    ∃ ch, make ⟨0, none, "main"⟩ ⟨"b", "n", none, none⟩ "u" (.int 9223372036854775808) 0 none true =
        .ok ch ∧
      Service.Accepts {} ⟨0, none, "main"⟩ ∧
      (ch.performAll [.write (.bytes ⟨#[1]⟩), .close] {}).1 =
        [.error (shortageFailure .addresses), .ok .done] ∧
      (ch.performAll [.write (.bytes ⟨#[1]⟩), .close] {}).1 ≠ [.ok (.wrote 1), .ok .done] := by
  have accepts : Service.Accepts {} ⟨0, none, "main"⟩ := ⟨.inr rfl, fun _ mem => by contradiction⟩
  have shortage : Shortage.ofSize? 9223372036854775808 = some .addresses :=
    Shortage.ofSize?_of_addressLimit_le (by decide)
  have made : make ⟨0, none, "main"⟩ ⟨"b", "n", none, none⟩ "u" (.int 9223372036854775808) 0 none
    true = .ok (fresh _ _ _ ⟨9223372036854775808, by decide, by decide⟩) := rfl
  refine ⟨_, made, accepts, ?_⟩
  have wrote := write_of_shortage (s := {}) (sound_make made) rfl shortage
    (by decide : 0 < (⟨#[1]⟩ : ByteArray).size)
  have replies : ((fresh ⟨0, none, "main"⟩ ⟨"b", "n", none, none⟩ "u"
      ⟨9223372036854775808, by decide, by decide⟩).performAll
        [.write (.bytes ⟨#[1]⟩), .close] {}).1 =
      [.error (shortageFailure .addresses), .ok .done] := by
    simp only [performAll, perform, wrote]
    rfl
  rw [replies]
  exact ⟨rfl, by simp⟩

end Channel

end ResumableUpload
