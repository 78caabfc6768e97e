import ResumableUpload.Service.Basic

/-!
# The history of a service

The record of a service tells which calls were made, not how they ended. That follows from the
record and the endpoints at its beginning: an endpoint answers a row of calls always the same way.
So two states of a service, one before and one after some calls, determine the **history** between
them, and in particular which chunks were sent and which of them were accepted.

## Main definitions

* `Outcome.isAccept` — whether an outcome is an acceptance.
* `Service.exchanges` — a row of calls, each with the outcome that it meets.
* `Service.historySince` — the calls made since an earlier state, with their outcomes.
* `Delivery`, `Service.deliveriesSince` — a chunk that was sent, and all those sent since.
* `acceptedBytes` — the bytes of the chunks that were accepted.
-/

namespace ResumableUpload

/-- Whether an outcome is an acceptance. -/
def Outcome.isAccept : Outcome → Bool
  | .accept _ => true
  | .fail _ => false

/-- What an outcome is to someone who only waits for an acceptance. -/
def Outcome.toExcept : Outcome → Except Failure Unit
  | .accept _ => .ok ()
  | .fail f => .error f

/-- A chunk that was sent. -/
structure Delivery where
  /-- The options that it was sent with. -/
  options : ServiceOptions
  /-- The chunk. -/
  chunk : Transmission
  /-- Whether the endpoint accepted it. -/
  accepted : Bool
deriving DecidableEq

/-- The chunk that a call sent, if it sent one. -/
def Delivery.ofExchange? : Call × Outcome → Option Delivery
  | (⟨o, .upload t⟩, outcome) => some ⟨o, t, outcome.isAccept⟩
  | _ => none

/-- The bytes of the chunks that were accepted, one chunk after the other. -/
def acceptedBytes (sent : List Delivery) : ByteArray :=
  joined ((sent.filter (·.accepted)).map (·.chunk.data))

namespace Service

/-- A row of calls, each with the outcome that it meets when they are made one after the other. -/
def exchanges (s : Service) : List Call → List (Call × Outcome)
  | [] => []
  | call :: calls =>
    let (outcome, s) := ask call.options call.request s
    (call, outcome) :: s.exchanges calls

/-- The service after a row of calls. -/
def afterCalls (s : Service) : List Call → Service
  | [] => s
  | call :: calls => (ask call.options call.request s).2.afterCalls calls

/-- The calls made since an earlier state, with their outcomes. -/
def historySince (start s : Service) : List (Call × Outcome) :=
  start.exchanges (s.calls.drop start.calls.length)

/-- The chunks sent since an earlier state. -/
def deliveriesSince (start s : Service) : List Delivery :=
  (start.historySince s).filterMap Delivery.ofExchange?

end Service

end ResumableUpload
