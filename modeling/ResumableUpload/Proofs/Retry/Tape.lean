import ResumableUpload.Retry.Tape

/-!
# The protocol of attempts

Attempts go on along their outcomes while these are worth it and repetitions are left, and the last
outcome decides. With a single repetition there is not much to it, but every pair of outcomes is
covered: a return, a storage failure, another transient or fatal failure, a request to stop.

## Main results

* `Retry.attempt_of_final`, `Retry.attempt_of_repeats` — one attempt at any operation.
* `Retry.delivers_surface` — how the last outcome comes out.
* `Retry.attempt_play`, `Retry.Course.last_le` — attempts along a tape, and how many there are.
* `Retry.watch_follows` — what the attempts at given outcomes come to.
-/

namespace ResumableUpload

/-- A storage fault that is given something to say says that. -/
theorem StorageFault.plain_of_ne (kind : StorageKind) {message : String} (ne : message ≠ "") :
    plain kind message = ⟨kind, .text message, none, false⟩ := by
  have said : (Argument.text message).isVoid = false := by
    simpa [Argument.isVoid] using ne
  rw [plain, raise, said]
  rfl

namespace Retry

variable {σ α : Type} {note : Event → σ → σ} {description : String}
  {operation : σ → Except Failure α × σ} {left : Nat} {s s₁ : σ}

/-- What comes out of a failure. -/
theorem mapError_error (description : String) (f : Failure) :
    (Except.error f : Except Failure α).mapError (surface description) =
      .error (surface description f) := rfl

/-! ### One attempt -/

/-- An outcome that is not worth another attempt, or behind which none is left, comes out. -/
theorem attempt_of_final {result : Except Failure α} (asked : operation s = (result, s₁))
    (final : left = 0 ∨ ¬Repeats result) :
    attempt note description operation left s = (result.mapError (surface description), s₁) := by
  cases left with
  | zero =>
    rw [attempt, asked]
    cases result <;> rfl
  | succ left =>
    rw [attempt, asked]
    cases result with
    | ok a => rfl
    | error f =>
      have fatal : (f.fault.isOrdinary && f.isRetryable) = false := by
        rw [← Bool.not_eq_true, Bool.and_eq_true]
        exact final.resolve_left (Nat.succ_ne_zero left)
      simp only [fatal, Bool.false_eq_true, if_false, mapError_error]

/-- After an outcome that is worth another attempt, which is told, the other ones follow. -/
theorem attempt_of_repeats {f : Failure} (asked : operation s = (.error f, s₁))
    (repeats : Repeats (.error f : Except Failure α)) :
    attempt note description operation (left + 1) s =
      attempt note description operation left (note (announce description left f) s₁) := by
  have transient : (f.fault.isOrdinary && f.isRetryable) = true :=
    Bool.and_eq_true_iff.mpr repeats
  rw [attempt, asked]
  simp only [transient, if_true]

/-! ### What comes out -/

/-- What a failed operation says about itself. -/
theorem words_eq (description : String) (f : Failure) :
    words description f = "Failed to " ++ description ++ ": " ++ f.fault.literal := rfl

/-- A failed operation says something about itself. -/
theorem words_ne (description : String) (f : Failure) : words description f ≠ "" := by
  simp [words_eq]

/-- The line that tells of a first failure. -/
theorem line_retrying (description failure : String) :
    (Event.retrying description 1 2 failure).line =
      "WARNING Failed to " ++ description ++ " (attempt 1/2), retrying: " ++ failure := by
  have parts : (Event.retrying description 1 2 failure).line =
      "WARNING" ++ " " ++ ("Failed to " ++ description ++ " (attempt " ++ toString 1 ++ "/" ++
        toString 2 ++ "), retrying: " ++ failure) := rfl
  have head : "WARNING" ++ " " ++ "Failed to " = "WARNING Failed to " := by decide
  have middle : " (attempt " ++ toString 1 ++ "/" ++ toString 2 ++ "), retrying: " =
      " (attempt 1/2), retrying: " := by decide
  rw [parts, ← head, ← middle]
  simp only [String.append_assoc]

/-- The failure that comes out of a failure. -/
theorem delivers_surface (description : String) (outcome : Except Failure α) :
    Delivers description outcome (outcome.mapError (surface description)) := by
  constructor
  · rintro a rfl
    rfl
  · rintro f rfl stop
    simp [mapError_error, surface, stop]
  · rintro f rfl storage
    have ordinary := Fault.isOrdinary_of_isStorage storage
    simp [mapError_error, surface, ordinary, Failure.wrap_of_isStorage _ storage]
  · rintro f rfl ordinary foreign
    refine ⟨false, ?_⟩
    rw [mapError_error, surface, if_pos ordinary, Failure.wrap, foreign, if_neg Bool.false_ne_true,
      Failure.causing, StorageFault.plain_of_ne _ (words_ne description f)]
    rfl

/-! ### Attempts along a tape -/

/-- An outcome of a tape that decides comes out. -/
theorem attempt_play_of_final (description : String) {left : Nat} (t : Tape α)
    (final : left = 0 ∨ ¬Repeats (t.outcomes t.calls)) :
    attempt Tape.note description Tape.play left t =
      ((t.outcomes t.calls).mapError (surface description), { t with calls := t.calls + 1 }) :=
  attempt_of_final (s := t) rfl final

/-- Attempts at a tape follow a course along it, and the last outcome comes out. -/
theorem attempt_play (description : String) (left : Nat) (t : Tape α) :
    ∃ last events, Course description t.outcomes left t.calls last events ∧
      attempt Tape.note description Tape.play left t =
        ((t.outcomes last).mapError (surface description),
          ⟨t.outcomes, last + 1, t.events ++ events⟩) := by
  -- Every repetition moves one outcome on.
  induction left generalizing t with
  | zero =>
    refine ⟨t.calls, [], .decided (.inl rfl), ?_⟩
    rw [attempt_play_of_final description t (.inl rfl), List.append_nil]
  | succ left ih =>
    by_cases repeats : Repeats (t.outcomes t.calls)
    · rcases failed : t.outcomes t.calls with f | a
      · have asked : t.play = (.error f, { t with calls := t.calls + 1 }) := by
          rw [Tape.play, failed]
        obtain ⟨last, events, course, eq⟩ :=
          ih (({ t with calls := t.calls + 1 } : Tape α).note (announce description left f))
        refine ⟨last, _, .repeated failed repeats course, ?_⟩
        rw [attempt_of_repeats asked (failed ▸ repeats), eq, Tape.note, List.append_assoc]
        rfl
      · rw [failed] at repeats
        exact repeats.elim
    · refine ⟨t.calls, [], .decided (.inr repeats), ?_⟩
      rw [attempt_play_of_final description t (.inr repeats), List.append_nil]

/-- There are no more calls than repetitions, and one. -/
theorem Course.last_le {outcomes : Nat → Except Failure α} {first last : Nat} {events : List Event}
    (course : Course description outcomes left first last events) : last ≤ first + left := by
  induction course with
  | decided => omega
  | repeated _ _ _ ih => omega

/-- With a single repetition, either the first outcome decides, or it is worth another attempt,
which is told, and the second one decides. -/
theorem watch_cases (description : String) (outcomes : Nat → Except Failure α) :
    (¬Repeats (outcomes 0) ∧ watch description outcomes =
        ((outcomes 0).mapError (surface description), ⟨outcomes, 1, []⟩)) ∨
      ∃ f, outcomes 0 = .error f ∧ Repeats (outcomes 0) ∧ watch description outcomes =
        ((outcomes 1).mapError (surface description),
          ⟨outcomes, 2, [.retrying description 1 2 f.fault.literal]⟩) := by
  obtain ⟨last, events, course, eq⟩ := attempt_play description repetitions ⟨outcomes, 0, []⟩
  cases course with
  | decided final => exact .inl ⟨final.resolve_left (by decide), eq⟩
  | repeated failed repeats rest =>
    cases rest with
    | decided => exact .inr ⟨_, failed, repeats, eq⟩

/-- The attempts at any outcomes keep what is promised of them. -/
theorem watch_follows (description : String) (outcomes : Nat → Except Failure α) :
    Follows description outcomes (watch description outcomes).1 (watch description outcomes).2.calls
      (watch description outcomes).2.events := by
  obtain ⟨fatal, eq⟩ | ⟨f, failed, repeats, eq⟩ := watch_cases description outcomes
  · rw [eq]
    exact {
      once := fun _ => rfl
      twice := fun repeats => absurd repeats fatal
      delivers := delivers_surface description (outcomes 0)
      silent := fun _ => rfl
      warned := fun _ _ repeats => absurd repeats fatal }
  · rw [eq]
    exact {
      once := fun fatal => absurd repeats fatal
      twice := fun _ => rfl
      delivers := delivers_surface description (outcomes 1)
      silent := fun fatal => absurd repeats fatal
      warned := by
        intro g failed' _
        rw [failed, Except.error.injEq] at failed'
        subst failed'
        exact ⟨_, rfl, line_retrying description f.fault.literal⟩ }

end Retry

end ResumableUpload
