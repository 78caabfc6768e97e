import ResumableUpload.Service.History
import ResumableUpload.Session.Opening

/-!
# How failures to open a channel surface

Once the chunk size is settled, opening a channel fails for one of three reasons: its address is
bad, its handle is refused, or the last call for a session is rejected. Whoever opens the channel is
to see a storage failure that says so, and that names the original one as its cause.

## Main definitions

* `Failure.Surfaces` — a storage failure that tells of the original one.
* `Origin.Settles` — the channel is opened with a chunk size that can be settled.
* `Origin.FailsBy` — what the original failure is.
* `Origin.ComesOut` — how it comes out.
-/

namespace ResumableUpload

/-- The failure is a storage failure; it is the original one, or it says something and was caused by
that. -/
def Failure.Surfaces (f original : Failure) : Prop :=
  f.fault.isStorage = true ∧
    (f = original ∨ f.fault.message ≠ "" ∧ f.causes = original.fault :: original.causes)

namespace Origin

/-- The channel is opened, and its chunk size can be settled. -/
def Settles (s : Service) : Origin → Prop
  | opened _ _ _ requested => (Channel.settleChunkSize requested s).1.isOk = true
  | openedSigned _ _ requested => (Channel.settleChunkSize requested s).1.isOk = true
  | _ => False

/-- What is wrong with the address, if the channel is opened through one. -/
def addressFault? : Origin → Option SignedUrl.Fault
  | openedSigned _ url _ =>
    match SignedUrl.blob url with
    | .error fault => some fault
    | .ok _ => none
  | _ => none

/-- Why the channel could not be opened, given all calls that were made for it. -/
inductive FailsBy (origin : Origin) : List (Call × Outcome) → Failure → Prop
  /-- The address is bad, and nothing is asked for. -/
  | address {fault : SignedUrl.Fault} (bad : origin.addressFault? = some fault) :
    FailsBy origin [] (.invalidValue fault.message)
  /-- The handle is refused, and nothing else is asked for. -/
  | refused {f : Failure} : FailsBy origin [(⟨origin.options, .handle⟩, .fail f)] f
  /-- The last call for a session is rejected. -/
  | rejected {earlier : List (Call × Outcome)} {call : Call} {f : Failure}
    (asked : origin.session? = some call) : FailsBy origin (earlier ++ [(call, .fail f)]) f

/-- How a failure comes out, given the original one and all calls: it surfaces, unless it is the
refusal of a handle and no storage failure, or a request to stop; and then it is passed on as it is.
-/
structure ComesOut (origin : Origin) (history : List (Call × Outcome)) (f original : Failure) :
    Prop where
  /-- This is the original failure. -/
  fails : origin.FailsBy history original
  /-- When it surfaces. -/
  surfaces_iff : f.Surfaces original ↔ original.fault.isStorage = true ∨
    original.fault.isOrdinary = true ∧ history ≠ [(⟨origin.options, .handle⟩, .fail original)]
  /-- A refusal is passed on. -/
  eq_of_refused : history = [(⟨origin.options, .handle⟩, .fail original)] → f = original
  /-- A request to stop is passed on. -/
  eq_of_stop : original.fault.isOrdinary = false → f = original

end Origin

end ResumableUpload
