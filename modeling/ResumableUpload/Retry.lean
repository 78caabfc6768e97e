import ResumableUpload.Event
import ResumableUpload.Failure.Basic

/-!
# Repeating an attempt

Opening a session is attempted again after a transient failure, once. A request to stop passes
untouched; any other failure that ends the attempts comes out as a storage failure.

## Main definitions

* `Retry.surface` — the failure that comes out.
* `Retry.run` — the attempts at an operation on a state of any kind.
-/

namespace ResumableUpload.Retry

/-- How many times a failed attempt is repeated: `OPEN_RETRY_ATTEMPTS`. -/
def repetitions : Nat := 1

/-- What a failed operation says about itself, for a failure that can be shown. -/
def words (description : String) (f : Failure) : String :=
  s!"Failed to {description}: {f.fault.literal}"

/-- The failure that comes out of the attempts when the last one fails. -/
def surface (description : String) (f : Failure) : Failure :=
  if f.fault.isOrdinary then f.wrap (words description f) else f

/-- The event of repeating an attempt with `left` more repetitions after it. -/
def announce (description : String) (left : Nat) (f : Failure) : Event :=
  .retrying description (repetitions - left) (repetitions + 1) f.fault.literal

/-- The attempts at an operation with at most `left` repetitions, which are the passes through the
loop of `call_with_open_retry` that are left. Every repetition is noted. -/
def attempt {σ α : Type} (note : Event → σ → σ) (description : String)
    (operation : σ → Except Failure α × σ) : (left : Nat) → σ → Except Failure α × σ
  | 0, s =>
    match operation s with
    | (.ok a, s) => (.ok a, s)
    | (.error f, s) => (.error (surface description f), s)
  | left + 1, s =>
    match operation s with
    | (.ok a, s) => (.ok a, s)
    | (.error f, s) =>
      if f.fault.isOrdinary && f.isRetryable then
        attempt note description operation left (note (announce description left f) s)
      else (.error (surface description f), s)

/-- The attempts at an operation: `call_with_open_retry`. -/
def run {σ α : Type} (note : Event → σ → σ) (description : String)
    (operation : σ → Except Failure α × σ) (s : σ) : Except Failure α × σ :=
  attempt note description operation repetitions s

/-- An operation that succeeds at once is not repeated. -/
theorem run_of_ok {σ α : Type} {note : Event → σ → σ} {description : String}
    {operation : σ → Except Failure α × σ} {s s' : σ} {a : α} (h : operation s = (.ok a, s')) :
    run note description operation s = (.ok a, s') := by
  simp [run, repetitions, attempt, h]

end ResumableUpload.Retry
