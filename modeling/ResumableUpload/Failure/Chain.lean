import Mathlib.Logic.Relation
import ResumableUpload.Failure.Basic

/-!
# What decides whether a failure is transient

A failure is a chain of faults, and one of them decides whether it is transient. The fault of a
closed channel decides against. Any other storage fault decides only if flag or code say that it is
transient; otherwise it **yields** to its cause. Faults from outside decide for themselves: one that
comes with the answer to a request by the status of that, any other by its kind, which may be a
special case of one of a few transient kinds.

## Main definitions

* `KnownKind.IsA`, `ExternalKind.IsA` — special cases of kinds.
* `transientKinds` — the kinds that are transient.
* `Fault.Yields`, `Fault.IsTransient` — faults that leave the decision to their cause, and those
  that are transient themselves.
* `Failure.chain`, `Failure.Reaches` — all faults of a failure, and those behind yielding ones.
* `Failure.Wraps` — a failure with one more storage fault around it that is not flagged.
-/

namespace ResumableUpload

/-! ### Special cases of kinds -/

/-- A known kind is another one, or a special case of it at some remove. -/
def KnownKind.IsA : KnownKind → KnownKind → Prop :=
  Relation.ReflTransGen fun kind parent => parent ∈ kind.parents

/-- A kind is a known one, or a special case of it at some remove. -/
inductive ExternalKind.IsA : ExternalKind → KnownKind → Prop
  /-- The kind is known. -/
  | known {kind above : KnownKind} (isA : kind.IsA above) : IsA (.known kind) above
  /-- The kind is declared as a special case. -/
  | declared {name : String} {parents : List KnownKind} {parent above : KnownKind}
    (mem : parent ∈ parents) (isA : parent.IsA above) : IsA (.declared name parents) above

/-- The kinds that are transient, with all their special cases: `_TRANSIENT_ERRORS`. -/
def transientKinds : List KnownKind :=
  [.system .connection, .system .timeout, .transport .connection, .transport .timeout,
   .transport .brokenChunk]

/-- The codes and statuses after which the same request may succeed: `RETRYABLE_STATUS_CODES`. -/
def transientCodes : List Int := [429, 500, 502, 503, 504]

/-! ### Faults that decide -/

namespace Fault

/-- The fault leaves the decision to its cause, unless it is transient itself: it is a storage
fault, and not that of a closed channel. -/
def Yields : Fault → Prop
  | storage fault => fault.kind.isClosed = false
  | external _ => False

/-- The fault is transient, whatever its cause. -/
inductive IsTransient : Fault → Prop
  /-- A storage fault is flagged. -/
  | flagged {fault : StorageFault} (yields : Yields (storage fault))
    (flag : fault.retryable = true) : IsTransient (storage fault)
  /-- A storage fault has a transient code. -/
  | coded {fault : StorageFault} {code : Int} (yields : Yields (storage fault))
    (given : fault.code = some code) (mem : code ∈ transientCodes) : IsTransient (storage fault)
  /-- A fault from outside comes with an answer, which has a transient status. -/
  | answered {fault : ExternalFault} {status : Int} (kind : fault.kind.IsA (.transport .status))
    (given : fault.status = some status) (mem : status ∈ transientCodes) :
    IsTransient (external fault)
  /-- A fault from outside comes with no answer, and is of a transient kind. -/
  | special {fault : ExternalFault} {kind : KnownKind}
    (other : ¬fault.kind.IsA (.transport .status)) (mem : kind ∈ transientKinds)
    (isA : fault.kind.IsA kind) : IsTransient (external fault)

/-- Whether a storage fault is flagged as transient; a fault from outside has no flag. -/
def flag? : Fault → Option Bool
  | storage fault => some fault.retryable
  | external _ => none

end Fault

/-! ### Chains -/

namespace Failure

/-- The fault and its causes. -/
def chain (f : Failure) : List Fault := f.fault :: f.causes

/-- The fault stands in the chain behind so many others, which all yield. -/
def Reaches (f : Failure) (number : Nat) (fault : Fault) : Prop :=
  f.chain[number]? = some fault ∧ ∀ earlier ∈ f.chain.take number, earlier.Yields

/-- The second failure is the first one, with one more storage fault around it that is not
transient itself. -/
inductive Wraps : Failure → Failure → Prop
  /-- It is wrapped in words, which is nothing if it is a storage failure already. -/
  | worded (f : Failure) (message : String) : Wraps f (f.wrap message)
  /-- It is made the cause of a storage fault. -/
  | caused (f : Failure) {fault : StorageFault} (yields : Fault.Yields (.storage fault))
    (unflagged : fault.retryable = false)
    (uncoded : ∀ code ∈ fault.code, code ∉ transientCodes) :
    Wraps f ⟨.storage fault, f.chain⟩

end Failure

end ResumableUpload
