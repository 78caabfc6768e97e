import ResumableUpload.Service.History

/-!
# What a service is going to do

The outcomes that are still to come decide whether a channel can send at all, whether everything it
sends is accepted, and whether two channels fare alike.

## Main definitions

* `Service.HasHandle`, `Service.Ready` — a handle exists, or at least can be had.
* `Service.Accepts` — everything that is sent is accepted.
* `Service.InStep` — two channels fare alike.
-/

namespace ResumableUpload.Service

/-- A handle for the options exists. -/
def HasHandle (s : Service) (o : ServiceOptions) : Prop := s.handles.contains o.identity = true

/-- A handle for the options exists, or is created when it is asked for. -/
def Ready (s : Service) (o : ServiceOptions) : Prop :=
  s.HasHandle o ∨
    (Endpoint.next (s.endpoints o.endpoint).handleScript).1.isAccept = true

/-- A handle can be had, and every chunk that is sent with it is accepted. -/
structure Accepts (s : Service) (o : ServiceOptions) : Prop where
  /-- There is a handle. -/
  ready : s.Ready o
  /-- No chunk is rejected. -/
  uploads : ∀ outcome ∈ (s.endpoints o.endpoint).uploadScript, outcome.isAccept = true

/-- The two services treat channels with these options alike: handles can be had, and chunks meet
the same outcomes. -/
structure InStep (o : ServiceOptions) (s : Service) (o' : ServiceOptions) (s' : Service) :
    Prop where
  /-- There is a handle for the first channel. -/
  ready : s.Ready o
  /-- There is a handle for the second channel. -/
  ready' : s'.Ready o'
  /-- The same outcomes are to come. -/
  uploads : (s'.endpoints o'.endpoint).uploadScript = (s.endpoints o.endpoint).uploadScript

end ResumableUpload.Service
