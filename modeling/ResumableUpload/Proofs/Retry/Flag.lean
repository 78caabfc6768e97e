import ResumableUpload.Proofs.Retry.Tape

/-!
# The flag of a wrapped failure

Whoever decides by the flag of a storage failure, and not by its causes, is to learn the same about
a failure that was wrapped. But wrapping sets no flag. So the flag is right about fatal failures,
and wrong about transient ones, which come out of attempts when the second one fails in that way,
too.

## Main results

* `Failure.flag?_wrap` — the flag of a wrapped failure.
* `Retry.flag_eq_iff` — when the flag is right.
-/

namespace ResumableUpload

/-- A failure from outside that is wrapped is not flagged, whatever it is. -/
theorem Failure.flag?_wrap {f : Failure} (foreign : f.fault.isStorage = false) (message : String) :
    (f.wrap message).fault.flag? = some false := by
  rw [wrap, foreign, if_neg Bool.false_ne_true]
  rfl

namespace Retry

variable {α : Type}

/-- The flag of a wrapped failure says whether it is transient just when it is not. Attempts that
end with such a failure raise it so wrapped; it can only be transient if it is the second one. -/
theorem flag_eq_iff (description : String) (outcomes : Nat → Except Failure α) :
    (∀ (f : Failure) (message : String), f.fault.isStorage = false →
      ((f.wrap message).fault.flag? = some f.isRetryable ↔ f.isRetryable = false)) ∧
      ∀ f, outcomes ((watch description outcomes).2.calls - 1) = .error f →
        f.fault.isOrdinary = true → f.fault.isStorage = false →
        ∃ g, (watch description outcomes).1 = .error g ∧ g.causes = f.chain ∧
          (g.fault.flag? = some f.isRetryable ↔ f.isRetryable = false) ∧
          (f.isRetryable = true → (watch description outcomes).2.calls = 2) := by
  have right : ∀ (f : Failure) (message : String), f.fault.isStorage = false →
      ((f.wrap message).fault.flag? = some f.isRetryable ↔ f.isRetryable = false) := by
    intro f message foreign
    rw [f.flag?_wrap foreign, Option.some.injEq, eq_comm]
  refine ⟨right, ?_⟩
  intro f last ordinary foreign
  have raised : (Except.error f : Except Failure α).mapError (surface description) =
      .error (f.wrap (words description f)) := by
    rw [mapError_error, surface, if_pos ordinary]
  have causes : (f.wrap (words description f)).causes = f.chain := by
    rw [Failure.wrap, foreign, if_neg Bool.false_ne_true]
    rfl
  obtain ⟨fatal, eq⟩ | ⟨first, -, -, eq⟩ := watch_cases description outcomes
  · rw [eq] at last ⊢
    have last : outcomes 0 = .error f := last
    refine ⟨_, (congrArg _ last).trans raised, causes, right f _ foreign, fun transient => ?_⟩
    rw [last] at fatal
    exact absurd ⟨ordinary, transient⟩ fatal
  · rw [eq] at last ⊢
    have last : outcomes 1 = .error f := last
    exact ⟨_, (congrArg _ last).trans raised, causes, right f _ foreign, fun _ => rfl⟩

/-- A transient failure is followed by a fatal one, about which the flag is right. -/
theorem flag_eq_iff_fatal :
    ∃ (reset broken g : Failure) (outcomes : Nat → Except Failure String),
      reset = .ofFault (.external (.raise (.system .connectionReset) [.text "reset"] none)) ∧
      broken = .ofFault (.external (.raise (.other "RuntimeError") [.text "x"] none)) ∧
      outcomes = (fun number => .error (if number = 0 then reset else broken)) ∧
      (watch "open session" outcomes).1 = .error g ∧ g.causes = broken.chain ∧
      g.fault.flag? = some broken.isRetryable ∧
      (broken.wrap "wrapped").fault.flag? = some broken.isRetryable := by
  obtain ⟨reset, reset_eq⟩ : ∃ reset : Failure,
      reset = .ofFault (.external (.raise (.system .connectionReset) [.text "reset"] none)) :=
    ⟨_, rfl⟩
  obtain ⟨broken, broken_eq⟩ : ∃ broken : Failure,
      broken = .ofFault (.external (.raise (.other "RuntimeError") [.text "x"] none)) := ⟨_, rfl⟩
  obtain ⟨outcomes, outcomes_eq⟩ : ∃ outcomes : Nat → Except Failure String,
      outcomes = fun number => .error (if number = 0 then reset else broken) := ⟨_, rfl⟩
  have calls : (watch "open session" outcomes).2.calls = 2 := by
    rw [outcomes_eq, reset_eq, broken_eq]
    rfl
  have last : outcomes ((watch "open session" outcomes).2.calls - 1) = .error broken := by
    rw [calls, outcomes_eq]
    rfl
  have ordinary : broken.fault.isOrdinary = true := by rw [broken_eq]; rfl
  have foreign : broken.fault.isStorage = false := by rw [broken_eq]; rfl
  have fatal : broken.isRetryable = false := by rw [broken_eq]; rfl
  obtain ⟨wrapped, watched⟩ := flag_eq_iff "open session" outcomes
  obtain ⟨g, raised, causes, right, -⟩ := watched broken last ordinary foreign
  exact ⟨reset, broken, g, outcomes, reset_eq, broken_eq, outcomes_eq, raised, causes,
    right.mpr fatal, (wrapped broken "wrapped" foreign).mpr fatal⟩

/-- A transient failure is wrapped, or ends the attempts because it happens twice, and the flag says
that it is fatal. -/
theorem flag_eq_iff_reset :
    ∃ (reset g : Failure),
      reset = .ofFault (.external (.raise (.system .connectionReset) [.text "r"] none)) ∧
      reset.fault.isStorage = false ∧ reset.fault.isOrdinary = true ∧ reset.isRetryable = true ∧
      (reset.wrap "wrapped").fault.flag? = some false ∧
      (watch (α := String) "open session" fun _ => .error reset).1 = .error g ∧
      g.causes = reset.chain ∧ g.fault.flag? = some false :=
  ⟨_, _, rfl, rfl, rfl, rfl, rfl, rfl, rfl, rfl⟩

end Retry

end ResumableUpload
