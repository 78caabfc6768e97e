import ResumableUpload.Channel.Basic

/-!
# The rounds of a write

A write of bytes begins with sending a full buffer, if there is one. After that it goes round as
long as there are bytes that are not copied yet: each **round** makes sure that there is storage,
copies what fits or what is left, and sends the buffer if it has become full. The first failure is
the end. That there is an end at all does not follow from how the rounds are made.

## Main definitions

* `Channel.Copying` — the state of a write between two rounds.
* `Copying.sendFull`, `Copying.round` — sending a full buffer, and one round.
* `Copying.Rounds` — all rounds of a write, with the states in which they begin.
* `Copying.Progress` — a round that copies something, or for which there is no storage.
-/

namespace ResumableUpload.Channel

/-- The state of a write between two rounds. -/
structure Copying where
  /-- The channel. -/
  channel : Channel
  /-- The number of bytes copied. -/
  offset : Nat
  /-- The service. -/
  service : Service

namespace Copying

/-- Sends the buffered bytes if they are a full chunk. The failure of that is the result. -/
def sendFull (c : Copying) : Option Failure × Copying :=
  if c.channel.buffer.limit = c.channel.chunkSize.bytes then
    match c.channel.flush false c.service with
    | (.error f, ch, s) => (some f, ⟨ch, c.offset, s⟩)
    | (.ok (), ch, s) => (none, ⟨ch, c.offset, s⟩)
  else (none, c)

/-- The write once `count` bytes of `data` are copied into a buffer. -/
def copy (data : ByteArray) (buffer : ChunkBuffer) (count : Nat) (c : Copying) : Copying :=
  ⟨{ c.channel with buffer := buffer.take data c.offset count }, c.offset + count, c.service⟩

/-- Copying moves on in the data. -/
@[simp] theorem offset_copy (data : ByteArray) (buffer : ChunkBuffer) (count : Nat) (c : Copying) :
    (c.copy data buffer count).offset = c.offset + count := rfl

/-- Copying fills the buffer up. -/
@[simp] theorem limit_copy (data : ByteArray) (buffer : ChunkBuffer) (count : Nat) (c : Copying) :
    (c.copy data buffer count).channel.buffer.limit = buffer.limit + count := rfl

/-- Copying keeps the chunk size. -/
@[simp] theorem chunkSize_copy (data : ByteArray) (buffer : ChunkBuffer) (count : Nat)
    (c : Copying) : (c.copy data buffer count).channel.chunkSize = c.channel.chunkSize := rfl

variable [Memory]

/-- One round of a write, which is one pass through the loop of `write`. The failure that ends it is
the result. -/
def round (data : ByteArray) (c : Copying) : Option Failure × Copying :=
  match c.channel.buffer.allocate c.channel.chunkSize.bytes with
  | .error shortage => (some (shortageFailure shortage), c)
  | .ok buffer => (c.copy data buffer (c.channel.room data c.offset)).sendFull

/-- All rounds from a state on: the states in which they begin, the failure that ends them, and the
state in which they end. -/
inductive Rounds (data : ByteArray) :
    Copying → List Copying → Option Failure → Copying → Prop
  /-- All bytes are copied. -/
  | finished {c : Copying} (all : data.size ≤ c.offset) : Rounds data c [] none c
  /-- A round fails. -/
  | broken {c c' : Copying} {f : Failure} (more : c.offset < data.size)
    (failed : c.round data = (some f, c')) : Rounds data c [c] (some f) c'
  /-- A round does not fail, and others follow. -/
  | next {c c₁ c' : Copying} {heads : List Copying} {failure : Option Failure}
    (more : c.offset < data.size) (went : c.round data = (none, c₁))
    (later : Rounds data c₁ heads failure c') : Rounds data c (c :: heads) failure c'

/-- What a round does, given how it ends. -/
inductive Progress (data : ByteArray) (c : Copying) : Option Failure → Copying → Prop
  /-- There is no storage for a chunk, and nothing is copied. -/
  | shortage {shortage : Shortage}
    (found : Shortage.ofSize? c.channel.chunkSize.bytes = some shortage) :
    Progress data c (some (shortageFailure shortage)) c
  /-- At least one byte is copied. Its place in the storage, which has the size of a chunk, is not
  in use, and it is one of the bytes that are not copied yet. A buffer that has become full is sent.
  -/
  | copied {failure : Option Failure} {c' : Copying} {buffer : ChunkBuffer} {storage : ByteArray}
    {count : Nat} (allocated : c.channel.buffer.allocate c.channel.chunkSize.bytes = .ok buffer)
    (stored : buffer.storage = some storage) (size_eq : storage.size = c.channel.chunkSize.bytes)
    (pos : 0 < count) (fits : c.channel.buffer.limit + count ≤ storage.size)
    (given : c.offset + count ≤ data.size)
    (sent : (c.copy data buffer count).sendFull = (failure, c'))
    (offset : c'.offset = c.offset + count) : Progress data c failure c'

end Copying

end ResumableUpload.Channel
