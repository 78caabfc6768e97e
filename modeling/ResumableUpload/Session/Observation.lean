import ResumableUpload.Session.Stage

/-!
# What can be observed of a channel

Whoever uses a channel sees the answers to what is done, the chunks that go out, and after each
stage the size of the chunks, the position, how many bytes are buffered, whether the channel is
open, and what a snapshot would say. The storage of the buffer and the handle are not seen. What is
observed can be **rebound**: told as if other options had been in use.

## Main definitions

* `Observation`, `Passage.observed` — all that is seen of a stage.
* `Snapshot.rebound`, `Delivery.rebound`, `Answer.rebound`, `Observation.rebound` — the same with
  other options.
-/

namespace ResumableUpload

/-- A snapshot with other options. -/
def Snapshot.rebound (options : ServiceOptions) (s : Snapshot) : Snapshot :=
  { s with options := options }

/-- A chunk as if it had been sent with other options. -/
def Delivery.rebound (options : ServiceOptions) (d : Delivery) : Delivery :=
  { d with options := options }

/-- An answer as if the channel had other options. -/
def Answer.rebound (options : ServiceOptions) : Answer → Answer
  | .snapshot s => .snapshot (s.rebound options)
  | answer => answer

/-- All that is seen of a stage. -/
structure Observation where
  /-- The answer. -/
  answer : Except Problem Answer
  /-- The chunks sent, and which of them were accepted. -/
  sent : List Delivery
  /-- Whether the channel is open afterwards. -/
  isOpen : Bool
  /-- The size of its chunks afterwards. -/
  chunkSize : ChunkSize
  /-- Its position afterwards. -/
  position : Nat
  /-- The number of bytes buffered afterwards. -/
  buffered : Nat
  /-- The snapshot that can be taken afterwards. -/
  snapshot : Except Report Snapshot

/-- What would be seen with other options. -/
def Observation.rebound (options : ServiceOptions) (o : Observation) : Observation :=
  { o with
    answer := o.answer.map (Answer.rebound options)
    sent := o.sent.map (Delivery.rebound options)
    snapshot := o.snapshot.map (Snapshot.rebound options) }

/-- All that is seen of a stage. -/
def Passage.observed (p : Passage) : Observation :=
  ⟨p.answer, p.start.deliveriesSince p.finish, p.after.isOpen, p.after.chunkSize, p.after.position,
    p.after.buffer.limit, Snapshot.capture p.after⟩

end ResumableUpload
