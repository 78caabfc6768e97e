import ResumableUpload.Channel.Open
import ResumableUpload.Session.Stage

/-!
# Where channels come from

A channel is made with given contents, opened for a blob or through a signed address, or restored
from a snapshot. What its **origin** says about it is where it begins in the object and which bytes
it holds from the beginning. Every channel that can occur is reached from an origin by stages.

## Main definitions

* `Origin`, `Origin.create` — a way to get a channel, and the channel.
* `Origin.position`, `Origin.buffered` — where the channel begins, and what it holds then.
* `Origin.IsValid` — what the models of the data promise.
* `Channel.Reachable` — the channels that can occur.
-/

namespace ResumableUpload

/-- A way to get a channel. -/
inductive Origin where
  /-- It is made with given contents. -/
  | made (options : ServiceOptions) (blob : Blob) (uploadId : String) (chunkSize : Value)
      (position : Int) (buffered : Option ByteArray) (isOpen : Bool)
  /-- It is opened for a blob. -/
  | opened (options : ServiceOptions) (blob : Blob) (session : SessionOptions) (requested : Value)
  /-- It is opened through a signed address. -/
  | openedSigned (options : ServiceOptions) (url : String) (requested : Value)
  /-- It is restored from a snapshot. -/
  | restored (snapshot : Snapshot)

namespace Origin

variable [Memory]

/-- The channel of an origin, and the service after it was created. -/
def create : Origin → Service → Except Problem Channel × Service
  | made options blob uploadId chunkSize position buffered isOpen, s =>
    ((Channel.make options blob uploadId chunkSize position buffered isOpen).mapError .failure, s)
  | opened options blob session requested, s =>
    Channel.openBlob options blob session requested s
  | openedSigned options url requested, s => Channel.openSigned options url requested s
  | restored snapshot, s => ((snapshot.restore s).1.mapError .failure, (snapshot.restore s).2)

/-- Where in the object the channel begins. -/
def position : Origin → Int
  | made _ _ _ _ position _ _ => position
  | restored snapshot => snapshot.position
  | _ => 0

/-- The bytes that the channel holds from the beginning; a closed one holds none. -/
def buffered : Origin → ByteArray
  | made _ _ _ _ _ buffered isOpen => if isOpen then buffered.getD .empty else .empty
  | restored snapshot => if snapshot.isOpen then snapshot.buffer.getD .empty else .empty
  | _ => .empty

/-- What the models promise about the data of an origin. -/
def IsValid : Origin → Prop
  | made _ blob _ _ _ _ _ => blob.IsValid
  | opened _ blob _ _ => blob.IsValid
  | openedSigned _ _ _ => True
  | restored snapshot => snapshot.IsValid

end Origin

variable [Memory]

/-- The channels that can occur: one has an origin, or is left by a stage. -/
inductive Channel.Reachable : Channel → Prop
  /-- A channel is created. -/
  | created {origin : Origin} {ch : Channel} {s s' : Service} (valid : origin.IsValid)
      (h : origin.create s = (.ok ch, s')) : Reachable ch
  /-- A stage leaves a channel. -/
  | passed {ch : Channel} (reachable : Reachable ch) (stage : Stage) (s : Service) :
      Reachable (ch.pass stage s).2.1

end ResumableUpload
