import ResumableUpload.Channel.Open
import ResumableUpload.Service.Outlook

/-!
# The two ways to open a channel

A channel is opened for a blob, or through a signed address. Whoever opens one, on services with the
same prospects, is to find no difference between the two but what is asked for, and what failed
attempts say that they were about.

## Main definitions

* `Service.SameProspects` — what is to come is the same for both ways.
* `Failure.AgreeBut` — failures that differ in what was attempted only.
* `Channel.IsNew`, `Channel.EndsAlike` — a new channel, and two openings that end alike.
* `Channel.AskAlike`, `Channel.OpenAlike` — two openings that proceed alike.
-/

namespace ResumableUpload

/-- The prospects of opening a channel for a blob on the one service and through a signed address on
the other one: the environment and the handles are the same, and so are the outcomes to come. -/
structure Service.SameProspects (o : ServiceOptions) (s t : Service) : Prop where
  /-- The settings are the same. -/
  environment : t.environment = s.environment
  /-- A handle exists in both or in none. -/
  known : t.HasHandle o ↔ s.HasHandle o
  /-- The outcomes of creating handles are the same. -/
  handles : (t.endpoints o.endpoint).handleScript = (s.endpoints o.endpoint).handleScript
  /-- The outcomes of opening sessions are the same. -/
  sessions : (t.endpoints o.endpoint).signedScript = (s.endpoints o.endpoint).sessionScript

/-- The failures agree, save that each may tell of its own attempt: they are the same, or storage
failures of the same kind with the same code, flag and causes whose messages differ in that. -/
inductive Failure.AgreeBut (description description' : String) : Failure → Failure → Prop
  /-- They are the same. -/
  | same {f : Failure} : AgreeBut description description' f f
  /-- Each tells of its own attempt. -/
  | described {kind : StorageKind} {rest : String} {code : Option Int} {retryable : Bool}
    {causes : List Fault} : AgreeBut description description'
      ⟨.storage ⟨kind, .text ("Failed to " ++ description ++ rest), code, retryable⟩, causes⟩
      ⟨.storage ⟨kind, .text ("Failed to " ++ description' ++ rest), code, retryable⟩, causes⟩

namespace Channel

/-- The channel is open and has seen no bytes; this is its session, and this the size of its chunks.
-/
structure IsNew (ch : Channel) (uploadId : String) (chunkSize : ChunkSize) : Prop where
  /-- More bytes may be written. -/
  isOpen : ch.isOpen = true
  /-- Nothing is accepted. -/
  position : ch.position = 0
  /-- Nothing is buffered. -/
  buffered : ch.buffer.contents = .empty
  /-- The session is this one. -/
  uploadId : ch.uploadId = uploadId
  /-- The chunk size is this one. -/
  chunkSize : ch.chunkSize = chunkSize

/-- Two openings end alike, given the outcomes of asking for a session, which are the same: if the
last one is an acceptance there are two new channels, each with the identifier that its service gave
the session; or else there are two failures that agree, save for the descriptions. -/
inductive EndsAlike (o : ServiceOptions) (s t : Service) (chunkSize : ChunkSize)
    (description description' : String) (outcomes : List Outcome) :
    Except Problem Channel → Except Problem Channel → Prop
  /-- Both channels are open. -/
  | opened {reply : Option String} {ch ch' : Channel}
    (accepted : outcomes.getLast? = some (.accept reply))
    (new : ch.IsNew (Service.countSession o reply s).1 chunkSize)
    (new' : ch'.IsNew (Service.countSession o reply t).1 chunkSize) :
    EndsAlike o s t chunkSize description description' outcomes (.ok ch) (.ok ch')
  /-- Neither channel could be opened. -/
  | failed {f f' : Failure} (rejected : ∀ reply, outcomes.getLast? ≠ some (.accept reply))
    (agree : f.AgreeBut description description' f') :
    EndsAlike o s t chunkSize description description' outcomes (.error (.failure f))
      (.error (.failure f'))

/-- What two openings ask for, and how they end, given the chunk size and the two requests: a handle
at most once, then one or two times for a session if there is a handle, and nothing else. -/
def AskAlike (o : ServiceOptions) (s t : Service) (chunkSize : ChunkSize)
    (description description' : String) (request request' : Request)
    (opened opened' : Except Problem Channel × Service) : Prop :=
  ∃ granting outcomes : List Outcome,
    s.historySince opened.2 =
      granting.map (Prod.mk ⟨o, .handle⟩) ++ outcomes.map (Prod.mk ⟨o, request⟩) ∧
    t.historySince opened'.2 =
      granting.map (Prod.mk ⟨o, .handle⟩) ++ outcomes.map (Prod.mk ⟨o, request'⟩) ∧
    granting.length ≤ 1 ∧ (s.Ready o → outcomes.length = 1 ∨ outcomes.length = 2) ∧
    (¬s.Ready o → outcomes = []) ∧
    EndsAlike o s t chunkSize description description' outcomes opened.1 opened'.1

/-- Opening a channel for a blob and opening one through a signed address, with the same options and
the same chunk size asked for, proceed alike. -/
structure OpenAlike (o : ServiceOptions) (blob : Blob) (session : SessionOptions) (url : String)
    (requested : Value) (s t : Service) : Prop where
  /-- The options of the session are carried by the parameters of the request. -/
  carried : session.Carried session.wireParameters
  /-- If the chunk size cannot be settled both fail in the same way, and nothing is asked for. -/
  unsettled : ∀ problem, (settleChunkSize requested s).1 = .error problem →
    (openBlob o blob session requested s).1 = .error problem ∧
    (openSigned o url requested t).1 = .error problem ∧
    s.historySince (openBlob o blob session requested s).2 = [] ∧
    t.historySince (openSigned o url requested t).2 = []
  /-- If it can, but the address names no blob, there is a storage failure, and nothing is asked
  for. -/
  unnamed : ∀ chunkSize fault, (settleChunkSize requested s).1 = .ok chunkSize →
    SignedUrl.blob url = .error fault →
    ∃ f, (openSigned o url requested t).1 = .error (.failure f) ∧ f.fault.name = "StorageError" ∧
      t.historySince (openSigned o url requested t).2 = []
  /-- Otherwise both ask alike, each for its own session. -/
  asked : ∀ chunkSize target, (settleChunkSize requested s).1 = .ok chunkSize →
    SignedUrl.blob url = .ok target →
    AskAlike o s t chunkSize ("open upload session for " ++ blob.id)
      ("open upload session from signed URL for " ++ target.id)
      (.session blob session.wireParameters) (.signedSession url)
      (openBlob o blob session requested s) (openSigned o url requested t)

end Channel

end ResumableUpload
