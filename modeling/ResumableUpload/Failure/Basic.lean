import ResumableUpload.ChunkSize
import ResumableUpload.Failure.Storage

/-!
# Failures

A **failure** is a fault together with the chain of its causes, the direct cause first. Whether it
is transient is decided by the first fault of the chain that decides it. A fault may be of several
kinds at once, so the order matters in which it is asked what it is: the one of a closed channel is
fatal; another storage fault is transient if it is flagged, and leaves the decision to its cause if
it is not; one that comes with an answer is what the status says; any other is what its kind says.

## Main definitions

* `Fault`, `Failure` — a fault, and a fault with its causes.
* `Fault.verdict` — what a fault decides.
* `Failure.isRetryable` — whether repeating what failed may succeed.
* `Failure.classify` — the same on a stack of limited depth.
* `Failure.wrap` — a failure as a storage fault with its own words.
-/

namespace ResumableUpload

/-- A fault of this library or from outside. -/
inductive Fault where
  /-- A storage fault. -/
  | storage (fault : StorageFault)
  /-- A fault from outside. -/
  | external (fault : ExternalFault)
deriving DecidableEq, Repr

namespace Fault

/-- The name of the fault's kind. -/
def name : Fault → String
  | storage f => f.kind.name
  | external f => f.kind.name

/-- What the fault says. -/
def message : Fault → String
  | storage f => f.message
  | external f => f.message

/-- The form in which messages show the fault. -/
def literal : Fault → String
  | storage f => f.literal
  | external f => f.literal

/-- Whether it is a storage fault. -/
def isStorage : Fault → Bool
  | storage _ => true
  | external _ => false

/-- Whether it is the fault of a closed channel. -/
def isClosedChannel : Fault → Bool
  | storage f => f.kind.isClosed
  | external _ => false

/-- Whether a kind that it is of passes a test, among the known ones from outside. -/
def inherits (test : KnownKind → Bool) : Fault → Bool
  | storage f => f.kind.parents.any test
  | external f => f.kind.inherits test

/-- Whether it lies in a value. -/
def isInvalidValue (f : Fault) : Bool := f.inherits KnownKind.isInvalidValue

/-- Whether it is a failure of what was asked for, and no request to stop. -/
def isOrdinary (f : Fault) : Bool := f.isStorage || f.inherits KnownKind.isOrdinary

/-- Whether it is flagged as transient, or has a transient code. A fault from outside has neither.
-/
def isFlagged : Fault → Bool
  | storage f => f.isFlagged
  | external _ => false

/-- Whether it comes with the answer to a request that has a transient status. -/
def isAnsweredTransiently : Fault → Bool
  | storage _ => false
  | external f => match f.status with
    | none => false
    | some status => isTransientStatus status

/-- Whether the fault is transient, `none` if its cause decides. The tests are those of
`is_retryable`, in the same order. -/
def verdict (f : Fault) : Option Bool :=
  if f.isClosedChannel then some false
  else if f.isStorage then if f.isFlagged then some true else none
  else if f.inherits KnownKind.isAnswered then some f.isAnsweredTransiently
  else some (f.inherits KnownKind.isTransient)

/-- Storage faults are no requests to stop. -/
theorem isOrdinary_of_isStorage {fault : Fault} (h : fault.isStorage = true) :
    fault.isOrdinary = true := by
  rw [isOrdinary, h, Bool.true_or]

end Fault

/-- A fault and the chain of its causes. -/
structure Failure where
  /-- The fault. -/
  fault : Fault
  /-- The causes, the direct one first. -/
  causes : List Fault
deriving DecidableEq, Repr

namespace Failure

/-- Whether the first fault of a chain that decides it says that the failure is transient. -/
def chainVerdict : List Fault → Bool
  | [] => false
  | fault :: causes => fault.verdict.getD (chainVerdict causes)

/-- Whether repeating what failed may succeed: `is_retryable`, where the stack is deep enough. -/
def isRetryable (f : Failure) : Bool := chainVerdict (f.fault :: f.causes)

/-- The same on a stack that has room for `depth` calls, each of which looks at one fault and calls
itself for the cause. Without room for a call there is no answer. -/
def classify : (depth : Nat) → Failure → Option Bool
  | 0, _ => none
  | depth + 1, ⟨fault, causes⟩ =>
    match fault.verdict, causes with
    | some verdict, _ => some verdict
    | none, [] => some false
    | none, cause :: causes => classify depth ⟨cause, causes⟩

/-- A failure without a cause. -/
def ofFault (fault : Fault) : Failure := ⟨fault, []⟩

/-- A storage failure without code, flag or cause. -/
def storage (kind : StorageKind) (message : String) : Failure :=
  ofFault (.storage (.plain kind message))

/-- The failure of a channel that is used after it was closed. -/
def closed : Failure := ofFault (.storage .closed)

/-- The failure of a value that is not acceptable. -/
def invalidValue (message : String) : Failure := ofFault (.external (.invalidValue message))

/-- The failure of a value of the wrong type. -/
def wrongType (message : String) : Failure := ofFault (.external (.wrongType message))

/-- The failure of a number that is too large for its purpose. -/
def outOfRange (message : String) : Failure := ofFault (.external (.outOfRange message))

/-- The failure of a request for memory. -/
def noMemory : Failure := ofFault (.external .noMemory)

/-- The failure of a value that is no chunk size. If it cannot be put into words it is this that
fails. -/
def chunkSize (fault : ChunkSize.Fault) : Failure :=
  if fault.isUnwritable then invalidValue fault.message
  else storage .invalidChunkSize fault.message

/-- A new storage failure with its own words, caused by the given one. -/
def causing (cause : Failure) (message : String) : Failure :=
  ⟨.storage (.plain .general message), cause.fault :: cause.causes⟩

/-- The failure as a storage failure, itself if it is one, else a new one with the words given:
`StorageError.wrap`. -/
def wrap (f : Failure) (message : String) : Failure :=
  if f.fault.isStorage then f else f.causing message

/-- A storage failure is wrapped as itself. -/
theorem wrap_of_isStorage {f : Failure} (message : String) (h : f.fault.isStorage = true) :
    f.wrap message = f := by
  simp [wrap, h]

end Failure

end ResumableUpload
