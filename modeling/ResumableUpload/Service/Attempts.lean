import ResumableUpload.Service.Outlook

/-!
# Attempts to send chunks

A row of chunks is sent one after the other, each as soon as there is a handle, until an attempt
fails. How many attempts succeed, and how one fails, is up to the service alone.

## Main definitions

* `Transmission.slice`, `Transmission.slices` — the full chunks that a stream of bytes has.
* `Service.attempt`, `Service.attemptAll` — an attempt to send a chunk, and a row of them.
* `Service.LastAttempt`, `Service.Attempted` — how a row ends, and what is asked for in all.
* `Endpoint.Obliging` — all attempts succeed.
* `Service.callsFor`, `Service.handlesFor` — what is asked for then, and which handles there are.
-/

namespace ResumableUpload

namespace Transmission

/-- The full slice of a stream with a given number, for a session in which the stream begins at
`position`. -/
def slice (uploadId : String) (size position : Nat) (stream : ByteArray) (number : Nat) :
    Transmission :=
  ⟨uploadId, stream.extract (number * size) ((number + 1) * size), 0, position + number * size,
    size, false⟩

/-- All full slices of a stream. -/
def slices (uploadId : String) (size position : Nat) (stream : ByteArray) : List Transmission :=
  (List.range (stream.size / size)).map (slice uploadId size position stream)

end Transmission

/-- The endpoint grants every handle and accepts every chunk. -/
structure Endpoint.Obliging (e : Endpoint) : Prop where
  /-- No handle is refused. -/
  handles : ∀ outcome ∈ e.handleScript, outcome.isAccept = true
  /-- No chunk is rejected. -/
  uploads : ∀ outcome ∈ e.uploadScript, outcome.isAccept = true

namespace Service

/-- An attempt to send a chunk of a blob. -/
def attempt (o : ServiceOptions) (blob : String) (t : Transmission) (s : Service) :
    Except Failure Unit × Service :=
  match requestHandle o (s.note (.sendingChunk blob t.position t.length t.last)) with
  | (.error f, s) => (.error f, s)
  | (.ok (), s) => upload o t s

/-- Attempts to send a row of chunks, up to the first one that fails: how many succeed, and the
failure, if there is one. -/
def attemptAll (o : ServiceOptions) (blob : String) :
    List Transmission → Service → Nat × Option Failure × Service
  | [], s => (0, none, s)
  | t :: ts, s =>
    match attempt o blob t s with
    | (.error f, s) => (0, some f, s)
    | (.ok (), s) =>
      let (done, failure, s) := attemptAll o blob ts s
      (done + 1, failure, s)

/-- What is asked for behind the chunks of a row that are accepted, given whether there was a handle
at the beginning. -/
inductive LastAttempt (o : ServiceOptions) (known : Prop) (ts : List Transmission) (done : Nat) :
    Option Failure → List (Call × Outcome) → Prop
  /-- All chunks are accepted. -/
  | complete (all : done = ts.length) : LastAttempt o known ts done none []
  /-- The next chunk is rejected. -/
  | rejected {t : Transmission} {f : Failure} (next : ts[done]? = some t) :
    LastAttempt o known ts done (some f) [(⟨o, .upload t⟩, .fail f)]
  /-- No handle can be had to begin with. -/
  | refused {f : Failure} (none : done = 0) (due : ts ≠ []) (missing : ¬known) :
    LastAttempt o known ts done (some f) [(⟨o, .handle⟩, .fail f)]

/-- What is asked for in a row of attempts, given whether there was a handle at the beginning: the
handle at most once, and only if it is missing; then the chunks that are accepted; and then whatever
ends the row. -/
def Attempted (o : ServiceOptions) (known : Prop) (ts : List Transmission) (done : Nat)
    (failure : Option Failure) (history : List (Call × Outcome)) : Prop :=
  ∃ asked sent last, history = asked ++ sent ++ last ∧
    asked.length ≤ 1 ∧ (∀ x ∈ asked, x.1 = ⟨o, .handle⟩) ∧ (known → asked = []) ∧
    sent.map Prod.fst = (ts.take done).map (fun t => ⟨o, .upload t⟩) ∧
    (∀ x ∈ sent, x.2.isAccept = true) ∧ LastAttempt o known ts done failure last

/-- The calls that it takes to send a row of chunks when all are accepted: one for a handle, if
there is something to send and no handle yet, and then one for each chunk. -/
def callsFor (o : ServiceOptions) (ts : List Transmission) (s : Service) : List Call :=
  (if ts.isEmpty || s.handles.contains o.identity then [] else [⟨o, .handle⟩]) ++
    ts.map fun t => ⟨o, .upload t⟩

/-- The handles that exist once a row of chunks was sent. -/
def handlesFor (o : ServiceOptions) (ts : List Transmission) (s : Service) : List Nat :=
  if ts.isEmpty || s.handles.contains o.identity then s.handles else o.identity :: s.handles

end Service

end ResumableUpload
