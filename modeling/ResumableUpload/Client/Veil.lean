import ResumableUpload.Client.Basic

/-!
# What is seen without the content of bytes

Whoever must not know what is uploaded may still see everything else. To **veil** bytes is to put as
many zeros in their place, and everything that holds bytes is veiled with them. Of a document, which
holds bytes in another form, only the length is left.

## Main definitions

* `veil` — as many zeros as there are bytes.
* `Channel.veiled`, `Snapshot.veiled`, `Call.veiled`, `Service.veiled` — what holds bytes, veiled.
* `Command.veiled`, `Response.veiled` — what is done and answered, veiled.
* `Sight`, `Turn.seen` — all that is seen of a turn.
-/

namespace ResumableUpload

/-- As many zeros as there are bytes. -/
def veil (bytes : ByteArray) : ByteArray := ChunkBuffer.zeros bytes.size

/-- The buffer with veiled storage. -/
def ChunkBuffer.veiled (b : ChunkBuffer) : ChunkBuffer := ⟨b.storage.map veil, b.limit⟩

/-- The channel with a veiled buffer. -/
def Channel.veiled (ch : Channel) : Channel := { ch with buffer := ch.buffer.veiled }

/-- The snapshot with veiled bytes. -/
def Snapshot.veiled (s : Snapshot) : Snapshot := { s with buffer := s.buffer.map veil }

/-- The request with veiled bytes. -/
def Request.veiled : Request → Request
  | .upload t => .upload { t with data := veil t.data }
  | request => request

/-- The call with a veiled request. -/
def Call.veiled (call : Call) : Call := ⟨call.options, call.request.veiled⟩

/-- The service with veiled calls. -/
def Service.veiled (s : Service) : Service := { s with calls := s.calls.map Call.veiled }

/-- The payload with veiled bytes. -/
def Payload.veiled : Payload → Payload
  | .bytes data => .bytes (veil data)
  | payload => payload

/-- The operation with a veiled payload. -/
def Operation.veiled : Operation → Operation
  | .write payload => .write payload.veiled
  | op => op

/-- The origin with veiled bytes. -/
def Origin.veiled : Origin → Origin
  | .made options blob uploadId chunkSize position buffered isOpen =>
    .made options blob uploadId chunkSize position (buffered.map veil) isOpen
  | .restored snapshot => .restored snapshot.veiled
  | origin => origin

/-- The command with veiled bytes. -/
def Command.veiled : Command → Command
  | .create origin => .create origin.veiled
  | .operate n op => .operate n op.veiled
  | command => command

/-- As many blanks as there are characters. -/
def blanked (text : String) : String := String.ofList (List.replicate text.length ' ')

/-- The response with veiled bytes and documents. -/
def Response.veiled : Response → Response
  | .channel ch => .channel ch.veiled
  | .snapshot s => .snapshot s.veiled
  | .document text => .document (blanked text)
  | response => response

/-- All that is seen of a turn. -/
structure Sight where
  /-- The answer; an error is told as it is. -/
  answer : Except Problem Response
  /-- The channels afterwards. -/
  channels : List Channel
  /-- The calls recorded until then. -/
  calls : List Call
  /-- The events until then. -/
  events : List Event

/-- All that is seen of a turn. -/
def Turn.seen (t : Turn) : Sight :=
  ⟨t.answer.map Response.veiled, t.after.channels.map Channel.veiled,
    t.after.service.calls.map Call.veiled, t.after.service.events⟩

end ResumableUpload
