import ResumableUpload.Client.Basic
import ResumableUpload.Service.Attempts

/-!
# Channels side by side

A client may work on several channels in turn. To each of them the turns that are about it make up
its own **account**: what was answered, which chunks went out, what an observer was told, and which
channel was left. What the channels have in common are the endpoints and, if they have the same
options, the handle.

## Main definitions

* `Client.Obliged` — everything that the channels send is accepted.
* `Command.channel?`, `Command.isAbout` — the channel that an operation or a snapshot is about.
* `Account`, `Turn.account` — what a turn is to the channel that it is about.
* `Turn.sendsWith` — something is sent with options of an identity.
-/

namespace ResumableUpload

/-- The endpoints of all channels are obliging. -/
def Client.Obliged (c : Client) : Prop :=
  ∀ ch ∈ c.channels, (c.service.endpoints ch.options.endpoint).Obliging

/-- The channel that an operation is performed on, or that a snapshot is taken of. -/
def Command.channel? : Command → Option Nat
  | .operate n _ => some n
  | .capture n => some n
  | _ => none

/-- Whether the command is about the channel with the number. -/
def Command.isAbout (n : Nat) (command : Command) : Bool := command.channel? = some n

/-! ### Accounts -/

/-- What a turn is to the channel that it is about. -/
structure Account where
  /-- The answer. -/
  answer : Except Problem Response
  /-- The chunks sent, and which of them were accepted. -/
  sent : List Delivery
  /-- The events, but for the creation of a handle. -/
  told : List Event
  /-- The channel afterwards. -/
  after : Option Channel

namespace Turn

/-- The chunks sent in the turn. -/
def sent (t : Turn) : List Delivery := t.before.service.deliveriesSince t.after.service

/-- The events of the turn, but for the creation of a handle. -/
def told (t : Turn) : List Event :=
  (t.after.service.events.drop t.before.service.events.length).filter (!·.isCreatingHandle)

/-- What the turn is to the channel that it is about. -/
def account (t : Turn) : Account :=
  ⟨t.answer, t.sent, t.told, t.command.channel?.bind (t.after.channels[·]?)⟩

/-- Whether a chunk is sent with options of the identity. -/
def sendsWith (identity : Nat) (t : Turn) : Bool :=
  t.sent.any fun d => d.options.identity = identity

end Turn

end ResumableUpload
