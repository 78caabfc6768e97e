import ResumableUpload.Blob
import ResumableUpload.Failure.Basic
import ResumableUpload.Service.Options
import ResumableUpload.SessionOptions

/-!
# Endpoints

An endpoint answers requests. What it answers is laid down in advance by four scripts of outcomes,
one for each kind of request; a script that is used up accepts everything.

## Main definitions

* `Outcome`, `Endpoint` — an answer, and an endpoint with the answers that are still to come.
* `Transmission`, `Request`, `Call` — a chunk on its way, what is asked for, and by whom.
* `Endpoint.answer` — the answer to a request.
-/

namespace ResumableUpload

/-- What an endpoint answers to one request. -/
inductive Outcome where
  /-- It accepts, possibly with an answer of its own. -/
  | accept (reply : Option String)
  /-- It fails. -/
  | fail (failure : Failure)
deriving DecidableEq, Repr

/-- An endpoint and the outcomes that are still to come. -/
structure Endpoint where
  /-- The outcomes of creating handles. -/
  handleScript : List Outcome := []
  /-- The outcomes of opening sessions. -/
  sessionScript : List Outcome := []
  /-- The outcomes of opening sessions through signed addresses. -/
  signedScript : List Outcome := []
  /-- The outcomes of uploading chunks. -/
  uploadScript : List Outcome := []
  /-- The number of sessions opened. -/
  sessions : Nat := 0
deriving DecidableEq, Repr, Inhabited

/-- A chunk on its way to the storage. -/
structure Transmission where
  /-- The session. -/
  uploadId : String
  /-- The bytes that hold the chunk. -/
  data : ByteArray
  /-- Where the chunk begins among those bytes. -/
  offset : Nat
  /-- Where the chunk begins in the object. -/
  position : Nat
  /-- The number of bytes in the chunk. -/
  length : Nat
  /-- Whether the chunk ends the object. -/
  last : Bool
deriving DecidableEq

/-- What an endpoint is asked for. -/
inductive Request where
  /-- A handle. -/
  | handle
  /-- A session for a blob. -/
  | session (blob : Blob) (parameters : List (String × Parameter))
  /-- A session through a signed address. -/
  | signedSession (url : String)
  /-- To store a chunk. -/
  | upload (transmission : Transmission)
deriving DecidableEq

/-- A request and the options that it was made with. -/
structure Call where
  /-- The options. -/
  options : ServiceOptions
  /-- The request. -/
  request : Request
deriving DecidableEq

namespace Endpoint

/-- The next outcome of a script, and the rest of the script. -/
def next : List Outcome → Outcome × List Outcome
  | [] => (.accept none, [])
  | outcome :: outcomes => (outcome, outcomes)

/-- The endpoint's answer to a request, and the endpoint after it. -/
def answer (e : Endpoint) : Request → Outcome × Endpoint
  | .handle =>
    let (outcome, rest) := next e.handleScript
    (outcome, { e with handleScript := rest })
  | .session _ _ =>
    let (outcome, rest) := next e.sessionScript
    (outcome, { e with sessionScript := rest })
  | .signedSession _ =>
    let (outcome, rest) := next e.signedScript
    (outcome, { e with signedScript := rest })
  | .upload _ =>
    let (outcome, rest) := next e.uploadScript
    (outcome, { e with uploadScript := rest })

end Endpoint

end ResumableUpload
