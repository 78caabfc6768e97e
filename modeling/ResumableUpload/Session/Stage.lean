import ResumableUpload.Channel.Operation
import ResumableUpload.Service.History
import ResumableUpload.Snapshot.Json
import ResumableUpload.Problem

/-!
# Sessions in stages

An upload session may outlive the channel that began it: a snapshot of the channel is taken, and a
channel restored from the snapshot goes on, perhaps in another process that got the snapshot as a
document. A **stage** of a session is an operation on the channel at hand, the taking of a snapshot,
or such a hand-over; a **journey** is a row of stages, each with the channel that the one before it
left. A stage that fails leaves the channel at hand as the next one's.

## Main definitions

* `Action` — an operation, or the taking of a snapshot.
* `Stage` — an action, or a hand-over to a restored channel.
* `Channel.act`, `Channel.handOver`, `Channel.pass` — an action, a hand-over, a stage.
* `Passage`, `Channel.journey` — a stage with all that surrounds it, and a row of stages.
-/

namespace ResumableUpload

/-- What is done to a channel that stays at hand. -/
inductive Action where
  /-- An operation. -/
  | operate (op : Operation)
  /-- A snapshot is taken. -/
  | capture

/-- A stage of a session. -/
inductive Stage where
  /-- An action on the channel at hand. -/
  | act (action : Action)
  /-- A channel restored from a snapshot takes over: from the snapshot as it is, or from the one
  that its document describes to a reader with options of its own. -/
  | handOver (reader : Option ServiceOptions)

/-- The answer to a stage that succeeds. -/
inductive Answer where
  /-- The answer to an operation. -/
  | reply (reply : Reply)
  /-- The snapshot taken. -/
  | snapshot (snapshot : Snapshot)
  /-- Another channel is at hand. -/
  | resumed

namespace Snapshot

/-- The snapshot that reaches the one who restores it: the snapshot itself, or what a reader with
options of its own makes of its document. -/
def received (snapshot : Snapshot) : Option ServiceOptions → Except Report Snapshot
  | none => .ok snapshot
  | some options => ofJson options snapshot.toJson

end Snapshot

namespace Channel

/-- How far the bytes written reach in the object: those accepted and those still buffered. -/
def reach (ch : Channel) : Nat := ch.position + ch.buffer.limit

variable [Memory]

/-- An action, and the channel and the service after it. -/
def act (ch : Channel) : Action → Service → Except Problem Answer × Channel × Service
  | .operate op, s =>
    match ch.perform op s with
    | (.ok reply, ch, s) => (.ok (.reply reply), ch, s)
    | (.error f, ch, s) => (.error (.failure f), ch, s)
  | .capture, s =>
    match Snapshot.capture ch with
    | .ok snapshot => (.ok (.snapshot snapshot), ch, s)
    | .error report => (.error (.invalid report), ch, s)

/-- The channel restored from a snapshot of the channel at hand. -/
def handOver (ch : Channel) (reader : Option ServiceOptions) (s : Service) :
    Except Problem Channel × Service :=
  match Snapshot.capture ch with
  | .error report => (.error (.invalid report), s)
  | .ok snapshot =>
    match snapshot.received reader with
    | .error report => (.error (.invalid report), s)
    | .ok snapshot =>
      match snapshot.restore s with
      | (.error f, s) => (.error (.failure f), s)
      | (.ok ch, s) => (.ok ch, s)

/-- A stage, and the channel and the service after it. -/
def pass (ch : Channel) : Stage → Service → Except Problem Answer × Channel × Service
  | .act action, s => ch.act action s
  | .handOver reader, s =>
    match ch.handOver reader s with
    | (.error problem, s) => (.error problem, ch, s)
    | (.ok ch, s) => (.ok .resumed, ch, s)

end Channel

/-- A stage with the answer to it, and the channel and the service on both sides of it. -/
structure Passage where
  /-- The stage. -/
  stage : Stage
  /-- The channel before it. -/
  before : Channel
  /-- The service before it. -/
  start : Service
  /-- The answer. -/
  answer : Except Problem Answer
  /-- The channel after it. -/
  after : Channel
  /-- The service after it. -/
  finish : Service

namespace Channel

variable [Memory]

/-- A row of stages, and the channel and the service after it. -/
def journey (ch : Channel) : List Stage → Service → List Passage × Channel × Service
  | [], s => ([], ch, s)
  | stage :: stages, s =>
    let (answer, ch', s') := ch.pass stage s
    let (passages, last, final) := ch'.journey stages s'
    (⟨stage, ch, s, answer, ch', s'⟩ :: passages, last, final)

/-- A row of actions on one channel, as a journey. -/
def actions (ch : Channel) (row : List Action) (s : Service) : List Passage × Channel × Service :=
  ch.journey (row.map .act) s

/-- A journey begins with its first stage and goes on from the channel that this one leaves. -/
theorem journey_cons {ch ch' : Channel} {stage : Stage} {stages : List Stage}
    {passages : List Passage} {s s' : Service}
    (h : ch.journey (stage :: stages) s = (passages, ch', s')) :
    ∃ answer ch₁ s₁ later, ch.pass stage s = (answer, ch₁, s₁) ∧
      ch₁.journey stages s₁ = (later, ch', s') ∧
      passages = ⟨stage, ch, s, answer, ch₁, s₁⟩ :: later := by
  simp only [journey, Prod.mk.injEq] at h
  obtain ⟨rfl, rfl, rfl⟩ := h
  exact ⟨_, _, _, _, rfl, rfl, rfl⟩

/-- A run of operations is a journey. -/
theorem journey_operations (ch : Channel) (ops : List Operation) (s : Service) :
    (ch.journey (ops.map fun op => .act (.operate op)) s).2 = (ch.performAll ops s).2 := by
  induction ops generalizing ch s with
  | nil => rfl
  | cons op ops ih =>
    have passed : (ch.pass (.act (.operate op)) s).2 = (ch.perform op s).2 := by
      rw [pass, act]
      rcases ch.perform op s with ⟨_ | _, _, _⟩ <;> rfl
    simp only [List.map_cons, journey, performAll, passed, ih]

end Channel

end ResumableUpload
