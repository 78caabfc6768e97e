import ResumableUpload.Channel.Basic

/-!
# Operations on a channel

What the owner of a channel can do to it, as data. A run performs operations one after the other,
each on the channel that the one before it left.

## Main definitions

* `Operation`, `Reply` — what is done, and what is answered when it succeeds.
* `Channel.perform` — one operation.
* `Channel.performAll` — a run, with the answer to every operation.
-/

namespace ResumableUpload

/-- Something done to a channel. -/
inductive Operation where
  /-- A payload is written. -/
  | write (payload : Payload)
  /-- The buffered bytes are sent. -/
  | flush (final : Bool)
  /-- The channel is closed. -/
  | close
  /-- The chunk size is changed. -/
  | setChunkSize (size : Value)
  /-- The scope of the channel is left. -/
  | leave (failed : Bool)

/-- The answer to an operation that succeeds. -/
inductive Reply where
  /-- There is nothing to say. -/
  | done
  /-- So many bytes of the payload were dealt with. -/
  | wrote (count : Nat)
deriving DecidableEq, Repr

namespace Channel

variable [Memory]

/-- An operation, and the channel and the service after it. -/
def perform (ch : Channel) : Operation → Service → Except Failure Reply × Channel × Service
  | .write payload, s =>
    let (r, ch, s) := ch.write payload s
    (r.map .wrote, ch, s)
  | .flush final, s =>
    let (r, ch, s) := ch.flush final s
    (r.map fun _ => .done, ch, s)
  | .close, s =>
    let (r, ch, s) := ch.close s
    (r.map fun _ => .done, ch, s)
  | .setChunkSize size, s =>
    match ch.setChunkSize size with
    | .error f => (.error f, ch, s)
    | .ok ch => (.ok .done, ch, s)
  | .leave failed, s =>
    let (r, ch, s) := ch.leave failed s
    (r.map fun _ => .done, ch, s)

/-- A run of operations, and the channel and the service after it. -/
def performAll (ch : Channel) :
    List Operation → Service → List (Except Failure Reply) × Channel × Service
  | [], s => ([], ch, s)
  | op :: ops, s =>
    let (r, ch, s) := ch.perform op s
    let (rs, ch, s) := ch.performAll ops s
    (r :: rs, ch, s)

/-- A run in two parts is the run of the first part and then that of the second. -/
theorem performAll_append (ch : Channel) (first second : List Operation) (s : Service) :
    ch.performAll (first ++ second) s =
      (((ch.performAll first s).1 ++
          ((ch.performAll first s).2.1.performAll second (ch.performAll first s).2.2).1),
        ((ch.performAll first s).2.1.performAll second (ch.performAll first s).2.2).2) := by
  induction first generalizing ch s with
  | nil => rfl
  | cons op ops ih => simp only [List.cons_append, performAll, ih]

end Channel

end ResumableUpload
