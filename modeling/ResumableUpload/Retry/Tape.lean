import ResumableUpload.Failure.Chain
import ResumableUpload.Retry

/-!
# Attempts at given outcomes

What an operation comes to each time it is called may be laid down in advance, on a **tape**. Played
by the attempts, a tape also tells how often the operation was called, and which events were told.

## Main definitions

* `Retry.Repeats` — an outcome that is worth another attempt.
* `Retry.Tape`, `Retry.watch` — a tape of outcomes, and the attempts at it.
* `Retry.Course` — how attempts proceed along a tape.
* `Retry.Delivers`, `Retry.Follows` — how an outcome comes out, and what is promised of attempts.
-/

namespace ResumableUpload.Retry

variable {α : Type}

/-- The outcome is worth another attempt: it is a transient failure, and no request to stop. -/
def Repeats : Except Failure α → Prop
  | .ok _ => False
  | .error f => f.fault.isOrdinary = true ∧ f.isRetryable = true

/-- An operation with the outcomes of all calls that may be made. -/
structure Tape (α : Type) where
  /-- What each call comes to. -/
  outcomes : Nat → Except Failure α
  /-- The number of calls made. -/
  calls : Nat := 0
  /-- The events told. -/
  events : List Event := []

namespace Tape

/-- The next call. -/
def play (t : Tape α) : Except Failure α × Tape α :=
  (t.outcomes t.calls, { t with calls := t.calls + 1 })

/-- The tape after an event. -/
def note (e : Event) (t : Tape α) : Tape α := { t with events := t.events ++ [e] }

end Tape

/-- What the attempts at given outcomes come to, and the tape after them. -/
def watch (description : String) (outcomes : Nat → Except Failure α) :
    Except Failure α × Tape α :=
  run Tape.note description Tape.play ⟨outcomes, 0, []⟩

/-- How attempts proceed, given how many repetitions are left: from the outcome of one number up to
that of another one, which decides, with the events told on the way. -/
inductive Course (description : String) (outcomes : Nat → Except Failure α) :
    (left first last : Nat) → List Event → Prop
  /-- The outcome decides: nothing is left, or it is not worth another attempt. -/
  | decided {left number : Nat} (final : left = 0 ∨ ¬Repeats (outcomes number)) :
    Course description outcomes left number number []
  /-- Another attempt is made. -/
  | repeated {left number last : Nat} {f : Failure} {events : List Event}
    (failed : outcomes number = .error f) (repeats : Repeats (outcomes number))
    (rest : Course description outcomes left (number + 1) last events) :
    Course description outcomes (left + 1) number last (announce description left f :: events)

/-- How the outcome of the last call comes out: as it is, save that an ordinary failure that is no
storage failure becomes the cause of one. -/
structure Delivers (description : String) (outcome result : Except Failure α) : Prop where
  /-- What is returned is returned. -/
  value : ∀ a, outcome = .ok a → result = .ok a
  /-- A request to stop passes. -/
  stop : ∀ f, outcome = .error f → f.fault.isOrdinary = false → result = .error f
  /-- A storage failure passes. -/
  storage : ∀ f, outcome = .error f → f.fault.isStorage = true → result = .error f
  /-- Any other failure becomes the cause of a storage failure, which says what has failed and how,
  and has no code. -/
  wrapped : ∀ f, outcome = .error f → f.fault.isOrdinary = true → f.fault.isStorage = false →
    ∃ retryable, result = .error ⟨.storage ⟨.general,
      .text ("Failed to " ++ description ++ ": " ++ f.fault.literal), none, retryable⟩, f.chain⟩

/-- What is promised of attempts at given outcomes: there is a single repetition, and only if the
first outcome is worth it, which is told then; and the last call alone decides what comes out. -/
structure Follows (description : String) (outcomes : Nat → Except Failure α)
    (result : Except Failure α) (calls : Nat) (events : List Event) : Prop where
  /-- There is one call if the first outcome is not worth another attempt. -/
  once : ¬Repeats (outcomes 0) → calls = 1
  /-- Otherwise there are two. -/
  twice : Repeats (outcomes 0) → calls = 2
  /-- The outcome of the last call comes out. -/
  delivers : Delivers description (outcomes (calls - 1)) result
  /-- Nothing is told if there is one call. -/
  silent : ¬Repeats (outcomes 0) → events = []
  /-- If there are two, a warning tells of the first failure. -/
  warned : ∀ f, outcomes 0 = .error f → Repeats (outcomes 0) → ∃ e : Event, events = [e] ∧
    e.line = "WARNING Failed to " ++ description ++ " (attempt 1/2), retrying: " ++ f.fault.literal

end ResumableUpload.Retry
