import ResumableUpload.Session.Stage

/-!
# Persistent callers

Failures need not be the end of an upload. A **persistent** caller repeats a write that failed with
the bytes that the channel has not taken in, even if there are none left, and closes the channel
until that succeeds. How many bytes were taken in is told by how much further the channel reaches.

## Main definitions

* `Channel.Persists` — what becomes of a channel and a service under a persistent caller.
* `Resent` — whatever was rejected is sent again.
-/

namespace ResumableUpload

/-- Every chunk that was rejected is sent again, unchanged, as the next one. -/
def Resent : List Delivery → Prop
  | [] => True
  | d :: sent =>
    (d.accepted = false → ∃ accepted later, sent = { d with accepted := accepted } :: later) ∧
      Resent sent

namespace Channel

variable [Memory]

/-- A persistent caller has payloads to write to a channel and then closes it. There is an outcome
only if the caller gets done. -/
inductive Persists : Channel → List ByteArray → Service → Channel → Service → Prop
  /-- The first payload is written, and the others are next. -/
  | wrote {ch ch₁ ch' : Channel} {data : ByteArray} {ds : List ByteArray} {s s₁ s' : Service}
      {count : Nat} (written : ch.write (.bytes data) s = (.ok count, ch₁, s₁))
      (rest : Persists ch₁ ds s₁ ch' s') : Persists ch (data :: ds) s ch' s'
  /-- Writing fails, and what is left of the payload is next. -/
  | resumed {ch ch₁ ch' : Channel} {data : ByteArray} {ds : List ByteArray} {s s₁ s' : Service}
      {f : Failure} (failed : ch.write (.bytes data) s = (.error f, ch₁, s₁))
      (rest : Persists ch₁ (data.extract (ch₁.reach - ch.reach) data.size :: ds) s₁ ch' s') :
      Persists ch (data :: ds) s ch' s'
  /-- Nothing is left to write, and the channel is closed. -/
  | closed {ch ch' : Channel} {s s' : Service} (closed : ch.close s = (.ok (), ch', s')) :
      Persists ch [] s ch' s'
  /-- Closing fails, and the channel is to be closed once more. -/
  | retried {ch ch₁ ch' : Channel} {s s₁ s' : Service} {f : Failure}
      (failed : ch.close s = (.error f, ch₁, s₁)) (rest : Persists ch₁ [] s₁ ch' s') :
      Persists ch [] s ch' s'

end Channel

end ResumableUpload
