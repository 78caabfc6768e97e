import ResumableUpload.Session.Stage

/-!
# The end of an object

A final chunk that is accepted ends the object: nothing should be sent behind it. Whether a channel
heeds this depends on what is done to it, and on what it is like then.

## Main definitions

* `EndsOnce` — nothing is sent behind an accepted final chunk.
* `Channel.SendsOn`, `Channel.EndsOn` — the operations that send something, and those that send the
  final chunk.
* `Passage.Sends`, `Passage.Ends` — the stages that do so.
-/

namespace ResumableUpload

/-- No chunk stands behind a final one that was accepted. -/
def EndsOnce (sent : List Delivery) : Prop :=
  sent.Pairwise fun d _ => ¬ (d.accepted = true ∧ d.chunk.last = true)

instance (sent : List Delivery) : Decidable (EndsOnce sent) :=
  inferInstanceAs (Decidable (List.Pairwise _ _))

namespace Channel

variable [Memory]

/-- So many more bytes fill the buffer: it is full already, or they are enough, and storage can be
had for them. -/
def FilledBy (ch : Channel) (count : Nat) : Prop :=
  ch.chunkSize.bytes ≤ ch.buffer.limit ∨
    ch.chunkSize.bytes ≤ ch.buffer.limit + count ∧
      ∃ buffer, ch.buffer.allocate ch.chunkSize.bytes = .ok buffer

/-- The operation has something to send: any flush, the closing of an open channel, and the writing
of bytes that fill the buffer of an open channel. -/
def SendsOn (ch : Channel) : Operation → Prop
  | .write (.bytes data) => ch.isOpen = true ∧ ch.FilledBy data.size
  | .write _ => False
  | .flush _ => True
  | .close => ch.isOpen = true
  | .setChunkSize _ => False
  | .leave failed => failed = false ∧ ch.isOpen = true

/-- What the operation sends is the final chunk. -/
def EndsOn (ch : Channel) : Operation → Prop
  | .flush final => final = true
  | .close => ch.isOpen = true
  | .leave failed => failed = false ∧ ch.isOpen = true
  | _ => False

end Channel

namespace Passage

variable [Memory]

/-- The stage has something to send. -/
def Sends (p : Passage) : Prop :=
  match p.stage with
  | .act (.operate op) => p.before.SendsOn op
  | _ => False

/-- The stage sends the final chunk, and succeeds. -/
def Ends (p : Passage) : Prop :=
  p.answer.isOk = true ∧
    match p.stage with
    | .act (.operate op) => p.before.EndsOn op
    | _ => False

end Passage

end ResumableUpload
