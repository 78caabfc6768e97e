import ResumableUpload.Service.Endpoint

/-!
# The storage service

The first request that is made with given options creates their handle; later requests use it again.
Every request is recorded as a call, also one that fails.

## Main definitions

* `Service` — the environment, the endpoints, the handles made, and the record of calls and events.
* `Service.requestHandle`, `Service.openSession`, `Service.openSignedSession`, `Service.upload` —
  the requests.
-/

namespace ResumableUpload

/-- The storage as its users see it. -/
structure Service where
  /-- The settings of the environment. -/
  environment : Environment := {}
  /-- The endpoint of each name; one that nothing is known of accepts everything. -/
  endpoints : String → Endpoint := fun _ => {}
  /-- The identities of the options whose handle exists. -/
  handles : List Nat := []
  /-- The calls made, in order. -/
  calls : List Call := []
  /-- The events that happened, in order. -/
  events : List Event := []
deriving Inhabited

namespace Service

/-- The service with another endpoint under a name. -/
def setEndpoint (s : Service) (name : String) (e : Endpoint) : Service :=
  { s with endpoints := fun other => if other = name then e else s.endpoints other }

/-- The service after an event. -/
def note (e : Event) (s : Service) : Service := { s with events := s.events ++ [e] }

/-- The service after several events. -/
def noteAll (es : List Event) (s : Service) : Service := { s with events := s.events ++ es }

/-- To tell nothing is to do nothing. -/
@[simp] theorem noteAll_nil (s : Service) : s.noteAll [] = s := by rw [noteAll, List.append_nil]

/-- The service without its record of calls and events. -/
def clearRecord (s : Service) : Service := { s with calls := [], events := [] }

/-- A request to the endpoint of the options. It is recorded first. -/
def ask (o : ServiceOptions) (request : Request) (s : Service) : Outcome × Service :=
  let (outcome, e) := (s.endpoints o.endpoint).answer request
  (outcome, { s.setEndpoint o.endpoint e with calls := s.calls ++ [⟨o, request⟩] })

/-- Makes sure that the options have a handle: `get_rpc`. -/
def requestHandle (o : ServiceOptions) (s : Service) : Except Failure Unit × Service :=
  if s.handles.contains o.identity then (.ok (), s)
  else
    match ask o .handle (s.note (.creatingHandle o.projectId)) with
    | (.accept _, s) => (.ok (), { s with handles := o.identity :: s.handles })
    | (.fail f, s) => (.error f, s)

/-- The service after another session was opened, and the session's identifier: the endpoint's
reply, or else the endpoint's name and the number of the session. -/
def countSession (o : ServiceOptions) (reply : Option String) (s : Service) : String × Service :=
  let e := s.endpoints o.endpoint
  let sessions := e.sessions + 1
  (reply.getD s!"{o.endpoint}-{sessions}",
    s.setEndpoint o.endpoint { e with sessions := sessions })

/-- A request for a session, answered by the session's identifier. -/
def askSession (o : ServiceOptions) (request : Request) (s : Service) :
    Except Failure String × Service :=
  match ask o request s with
  | (.fail f, s) => (.error f, s)
  | (.accept reply, s) =>
    let (uploadId, s) := countSession o reply s
    (.ok uploadId, s)

/-- Opens a session for a blob: `StorageRpc.open`. -/
def openSession (o : ServiceOptions) (blob : Blob) (parameters : List (String × Parameter))
    (s : Service) : Except Failure String × Service :=
  askSession o (.session blob parameters) s

/-- Opens a session through a signed address: `StorageRpc.open_signed_url`. -/
def openSignedSession (o : ServiceOptions) (url : String) (s : Service) :
    Except Failure String × Service :=
  askSession o (.signedSession url) s

/-- Sends a chunk: `StorageRpc.write`. -/
def upload (o : ServiceOptions) (t : Transmission) (s : Service) : Except Failure Unit × Service :=
  match ask o (.upload t) s with
  | (.fail f, s) => (.error f, s)
  | (.accept _, s) => (.ok (), s)

end Service

end ResumableUpload
