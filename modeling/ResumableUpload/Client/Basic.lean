import ResumableUpload.Service.Handles
import ResumableUpload.Session.Ending
import ResumableUpload.Session.Opening

/-!
# Clients

A **client** works with any number of channels, snapshots and documents, all of one service. It does
one thing after the other; what it gets it keeps, and channels, snapshots and documents go by the
numbers under which they were kept.

## Main definitions

* `Command`, `Response` — what a client does, and what it is told when that succeeds.
* `Client`, `Client.step`, `Client.run` — a client, one command, and a row of commands.
* `Turn` — a command with the answer to it, and the client on both sides of it.
* `Turn.history`, `Turn.options?`, `Turn.MayCall` — the calls made in a turn, whose they are, and
  the turns that make any.
* `Turn.StoppedBy` — what a refused handle leaves behind.
-/

namespace ResumableUpload

/-- Something that a client does. -/
inductive Command where
  /-- A channel is created. -/
  | create (origin : Origin)
  /-- An operation is performed on a channel. -/
  | operate (channel : Nat) (op : Operation)
  /-- A snapshot is taken of a channel. -/
  | capture (channel : Nat)
  /-- A snapshot is described by named values. -/
  | describe (options : Option ServiceOptions) (blob : Option Blob) (fields : Fields)
  /-- A channel is restored from a snapshot. -/
  | restore (snapshot : Nat)
  /-- The document of a snapshot is written. -/
  | write (snapshot : Nat)
  /-- A document that was written is read. -/
  | read (document : Nat) (options : ServiceOptions)
  /-- A document from elsewhere is read. -/
  | load (document : String) (options : ServiceOptions)
  /-- A snapshot is shown. -/
  | display (snapshot : Nat)
  /-- Two snapshots are compared. -/
  | compare (first second : Nat)
  /-- Two options objects are compared. -/
  | compareOptions (first second : ServiceOptions)
  /-- A handle is asked for. -/
  | requestHandle (options : ServiceOptions)

/-- What a client is told when it succeeds. -/
inductive Response where
  /-- There is a new channel. -/
  | channel (ch : Channel)
  /-- An operation was answered. -/
  | reply (reply : Reply)
  /-- There is a new snapshot. -/
  | snapshot (snapshot : Snapshot)
  /-- There is a new document. -/
  | document (text : String)
  /-- The two forms in which a snapshot is shown. -/
  | shown (literal summary : String)
  /-- Whether the things compared say the same. -/
  | compared (agree : Bool)
  /-- There is nothing to say. -/
  | done
  /-- Nothing was kept under the number. -/
  | missing

/-- A client of a service. -/
structure Client where
  /-- The channels, in the order in which they were created. -/
  channels : List Channel := []
  /-- The snapshots, in the order in which they were had. -/
  snapshots : List Snapshot := []
  /-- The documents, in the order in which they were written. -/
  documents : List String := []
  /-- The service. -/
  service : Service := {}

namespace Client

/-- The client keeps a channel, if it gets one. -/
def keepChannel (c : Client) : Except Problem Channel × Service → Except Problem Response × Client
  | (.ok ch, s) => (.ok (.channel ch), { c with channels := c.channels ++ [ch], service := s })
  | (.error problem, s) => (.error problem, { c with service := s })

/-- The client keeps a snapshot, if it gets one. -/
def keepSnapshot (c : Client) : Except Report Snapshot → Except Problem Response × Client
  | .ok snapshot => (.ok (.snapshot snapshot), { c with snapshots := c.snapshots ++ [snapshot] })
  | .error report => (.error (.invalid report), c)

/-- The two forms in which a snapshot is shown, if it can be shown. -/
def shown (snapshot : Snapshot) : Except Problem Response :=
  if snapshot.isWritable then .ok (.shown snapshot.literal snapshot.summary)
  else .error (.failure (.invalidValue writtenLimit))

/-- The client does something with what was kept, if it was. -/
def withKept {α : Type} (c : Client) (kept : Option α)
    (use : α → Except Problem Response × Client) : Except Problem Response × Client :=
  match kept with
  | none => (.ok .missing, c)
  | some a => use a

/-- The service after a channel was kept. -/
@[simp] theorem service_keepChannel (c : Client) (made : Except Problem Channel × Service) :
    (c.keepChannel made).2.service = made.2 := by
  obtain ⟨_ | _, s⟩ := made <;> rfl

/-- The answer to a channel that is to be kept. -/
@[simp] theorem answer_keepChannel (c : Client) (made : Except Problem Channel × Service) :
    (c.keepChannel made).1 = made.1.map .channel := by
  obtain ⟨_ | _, s⟩ := made <;> rfl

/-- Keeping a snapshot is nothing to the service. -/
@[simp] theorem service_keepSnapshot (c : Client) (taken : Except Report Snapshot) :
    (c.keepSnapshot taken).2.service = c.service := by
  cases taken <;> rfl

/-- What is done with what was kept, or else nothing. -/
theorem withKept_cases {α : Type} {c c' : Client} {kept : Option α}
    {use : α → Except Problem Response × Client} {answer : Except Problem Response}
    (h : c.withKept kept use = (answer, c')) :
    (kept = none ∧ answer = .ok .missing ∧ c' = c) ∨ ∃ a, kept = some a ∧ use a = (answer, c') := by
  cases kept with
  | none =>
    obtain ⟨rfl, rfl⟩ := Prod.mk.inj h
    exact .inl ⟨rfl, rfl, rfl⟩
  | some a => exact .inr ⟨a, rfl, h⟩

variable [Memory]

/-- A command, and the client after it. -/
def step (c : Client) : Command → Except Problem Response × Client
  | .create origin => c.keepChannel (origin.create c.service)
  | .operate n op =>
    c.withKept c.channels[n]? fun ch =>
      let (result, ch, s) := ch.perform op c.service
      ((result.map .reply).mapError .failure,
        { c with channels := c.channels.set n ch, service := s })
  | .capture n => c.withKept c.channels[n]? fun ch => c.keepSnapshot (Snapshot.capture ch)
  | .describe options blob fields => c.keepSnapshot (Snapshot.ofFields options blob fields)
  | .restore n =>
    c.withKept c.snapshots[n]? fun snapshot =>
      c.keepChannel ((Origin.restored snapshot).create c.service)
  | .write n =>
    c.withKept c.snapshots[n]? fun snapshot =>
      (.ok (.document snapshot.toJson), { c with documents := c.documents ++ [snapshot.toJson] })
  | .read n options =>
    c.withKept c.documents[n]? fun document => c.keepSnapshot (Snapshot.ofJson options document)
  | .load document options => c.keepSnapshot (Snapshot.ofJson options document)
  | .display n =>
    c.withKept c.snapshots[n]? fun snapshot => (shown snapshot, c)
  | .compare n m =>
    c.withKept c.snapshots[n]? fun first =>
      c.withKept c.snapshots[m]? fun second => (.ok (.compared (first.agrees second)), c)
  | .compareOptions first second => (.ok (.compared (first.agrees second)), c)
  | .requestHandle options =>
    let (result, s) := Service.requestHandle options c.service
    ((result.map fun _ => .done).mapError .failure, { c with service := s })

end Client

/-- A command with the answer to it, and the client on both sides of it. -/
structure Turn where
  /-- The command. -/
  command : Command
  /-- The client before it. -/
  before : Client
  /-- The answer. -/
  answer : Except Problem Response
  /-- The client after it. -/
  after : Client

variable [Memory]

/-- A row of commands, and the client after it. -/
def Client.run (c : Client) : List Command → List Turn × Client
  | [] => ([], c)
  | command :: commands =>
    let (answer, c') := c.step command
    let (turns, last) := c'.run commands
    (⟨command, c, answer, c'⟩ :: turns, last)

namespace Turn

/-- The calls made in the turn, with their outcomes. -/
def history (t : Turn) : List (Call × Outcome) := t.before.service.historySince t.after.service

/-- The options of the channel that the command creates or is about, or those that it names. -/
def options? (t : Turn) : Option ServiceOptions :=
  match t.command with
  | .create origin => some origin.options
  | .operate n _ => t.before.channels[n]?.map (·.options)
  | .requestHandle options => some options
  | _ => none

/-- A call may be made: a handle is asked for, a channel is opened whose chunk size and address are
good, or an operation has something to send. -/
def MayCall (t : Turn) : Prop :=
  match t.command with
  | .create origin => origin.Connects t.before.service
  | .operate n op => ∃ ch, t.before.channels[n]? = some ch ∧ ch.SendsOn op
  | .requestHandle _ => True
  | _ => False

/-- An operation that was refused a handle ends in a flush that does nothing but ask for it: the
channel is left as this flush found it, and unless something was written, as it was before. -/
def StoppedBy (t : Turn) (f : Failure) : Prop :=
  match t.command with
  | .operate n op =>
    ∃ ch ch' final u, t.before.channels[n]? = some ch ∧ t.after.channels[n]? = some ch' ∧
      ch'.flush final u = (.error f, ch', t.after.service) ∧
      u.historySince t.after.service = [(⟨ch.options, .handle⟩, .fail f)] ∧
      ((∀ payload, op ≠ .write payload) → ch' = ch)
  | _ => True

/-- Two things are compared. -/
def Compares (t : Turn) : Prop :=
  match t.command with
  | .compare _ _ => True
  | .compareOptions _ _ => True
  | _ => False

end Turn

end ResumableUpload
