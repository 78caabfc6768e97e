import ResumableUpload.Proofs.Service.Handles
import ResumableUpload.Service.Attempts

/-!
# What attempts ask of a service

An attempt asks for a handle if there is none, and then sends its chunk. So in a row of attempts
only the first can fail for want of a handle; any other that fails was rejected, and everything
before it was accepted.

## Main results

* `Transmission.slices_append`, `Transmission.slices_of_small` — the full chunks of a stream.
* `Service.attempt_cases` — a single attempt.
* `Service.attempted_attemptAll` — a row of attempts.
-/

namespace ResumableUpload

/-! ### Slices -/

namespace Transmission

variable {position size : Nat} {uploadId : String}

/-- What stands behind a first chunk stands at the same place, less that chunk, in the rest. -/
theorem extract_behind {first : ByteArray} (full : first.size = size) (rest : ByteArray)
    (number stop : Nat) :
    (first ++ rest).extract ((number + 1) * size) (stop + size) =
      rest.extract (number * size) stop := by
  rw [Nat.succ_mul, Nat.add_comm _ size, Nat.add_comm _ size,
    ByteArray.extract_append_size_add' full.symm]

/-- A stream that begins with a full chunk has that chunk, and those of the rest of it. -/
theorem slices_append {first : ByteArray} (full : first.size = size) (pos : 0 < size)
    (rest : ByteArray) :
    slices uploadId size position (first ++ rest) =
      ⟨uploadId, first, 0, position, size, false⟩ ::
        slices uploadId size (position + size) rest := by
  have number : (first ++ rest).size / size = rest.size / size + 1 := by
    rw [ByteArray.size_append, full, Nat.add_div_left _ pos]
  have head : slice uploadId size position (first ++ rest) 0 =
      ⟨uploadId, first, 0, position, size, false⟩ := by
    rw [slice, Nat.zero_mul, Nat.zero_add, Nat.one_mul, Nat.add_zero,
      ByteArray.extract_append_eq_left full.symm]
  rw [slices, number, List.range_succ_eq_map, List.map_cons, List.map_map, head, slices]
  refine congrArg _ (List.map_congr_left fun n _ => ?_)
  rw [Function.comp_apply, slice, slice, Nat.succ_mul (n + 1), extract_behind full,
    Nat.succ_mul n, Nat.add_comm _ size, Nat.add_assoc]

/-- A stream of less than a full chunk has no full chunks. -/
theorem slices_of_small {stream : ByteArray} (small : stream.size < size) :
    slices uploadId size position stream = [] := by
  rw [slices, Nat.div_eq_of_lt small]
  rfl

end Transmission

namespace Service

variable {blob : String} {o : ServiceOptions} {s s' : Service}

/-! ### Attempts -/

/-- What an attempt does: there is no handle, and asking for one fails; or the chunk is sent, after
a handle was granted if there was none, and the endpoint decides. -/
theorem attempt_cases {t : Transmission} {result : Except Failure Unit}
    (h : attempt o blob t s = (result, s')) :
    (¬s.HasHandle o ∧ ∃ f, result = .error f ∧ s.Makes [(⟨o, .handle⟩, .fail f)] s') ∨
      ∃ asked outcome, asked.length ≤ 1 ∧ (∀ x ∈ asked, x.1 = ⟨o, .handle⟩) ∧
        (s.HasHandle o → asked = []) ∧ result = Outcome.toExcept outcome ∧ s'.HasHandle o ∧
        s.Makes (asked ++ [(⟨o, .upload t⟩, outcome)]) s' := by
  have noted : s.Makes [] (s.note (.sendingChunk blob t.position t.length t.last)) :=
    (Makes.refl s).of_record rfl (.refl s)
  rw [attempt] at h
  obtain ⟨known, eq⟩ | ⟨unknown, f, s₁, eq, makes, -⟩ | ⟨unknown, reply, s₁, eq, makes, -⟩ :=
    requestHandle_cases o (s.note (.sendingChunk blob t.position t.length t.last))
  · simp only [eq, upload_eq, Prod.mk.injEq] at h
    obtain ⟨rfl, rfl⟩ := h
    exact .inr ⟨[], _, by simp, by simp, fun _ => rfl, rfl, known.ask_upload t,
      noted.trans (makes_ask o (.upload t) _)⟩
  · simp only [eq, Prod.mk.injEq] at h
    obtain ⟨rfl, rfl⟩ := h
    exact .inl ⟨unknown, f, rfl, noted.trans makes⟩
  · have known : s₁.HasHandle o := hasHandle_of_requestHandle eq
    simp only [eq, upload_eq, Prod.mk.injEq] at h
    obtain ⟨rfl, rfl⟩ := h
    exact .inr ⟨[(⟨o, .handle⟩, .accept reply)], _, by simp, by simp,
      fun there => absurd there unknown, rfl, known.ask_upload t,
      noted.trans (makes.trans (makes_ask o (.upload t) s₁))⟩

/-- A row of attempts that ends without failure is complete, and one that fails is not. -/
theorem Attempted.done_cases {known : Prop} {ts : List Transmission} {done : Nat}
    {failure : Option Failure} {history : List (Call × Outcome)}
    (attempted : Attempted o known ts done failure history) :
    (failure = none ∧ done = ts.length) ∨ (∃ f, failure = some f) ∧ done < ts.length := by
  obtain ⟨asked, sent, last, -, -, -, -, -, -, ending⟩ := attempted
  cases ending with
  | complete all => exact .inl ⟨rfl, all⟩
  | rejected next => exact .inr ⟨⟨_, rfl⟩, (List.getElem?_eq_some_iff.mp next).1⟩
  | refused none due _ =>
    rw [none]
    exact .inr ⟨⟨_, rfl⟩, List.length_pos_iff.mpr due⟩

/-- What a row of attempts asks for. -/
theorem attempted_attemptAll {ts : List Transmission} {done : Nat} {failure : Option Failure}
    (h : attemptAll o blob ts s = (done, failure, s')) :
    ∃ history, s.Makes history s' ∧ Attempted o (s.HasHandle o) ts done failure history := by
  induction ts generalizing s done with
  | nil =>
    simp only [attemptAll, Prod.mk.injEq] at h
    obtain ⟨rfl, rfl, rfl⟩ := h
    exact ⟨[], .refl s, [], [], [], rfl, by simp, by simp, fun _ => rfl, rfl, by simp,
      .complete rfl⟩
  | cons t ts ih =>
    rw [attemptAll] at h
    split at h
    next f s₁ tried =>
      simp only [Prod.mk.injEq] at h
      obtain ⟨rfl, rfl, rfl⟩ := h
      obtain ⟨missing, g, failed, makes⟩ | ⟨asked, outcome, one, handle, idle, ended, -, makes⟩ :=
        attempt_cases tried
      · obtain rfl := Except.error.inj failed
        exact ⟨_, makes, [], [], _, rfl, by simp, by simp, fun _ => rfl, rfl, by simp,
          .refused rfl (by simp) missing⟩
      · cases outcome with
        | accept reply => contradiction
        | fail g =>
          obtain rfl := Except.error.inj ended
          exact ⟨_, makes, asked, [], _, by simp, one, handle, idle, rfl, by simp, .rejected rfl⟩
    next s₁ tried =>
      rcases later : attemptAll o blob ts s₁ with ⟨done', failure', s₂⟩
      simp only [later, Prod.mk.injEq] at h
      obtain ⟨rfl, rfl, rfl⟩ := h
      obtain ⟨history, makes', asked', sent, last, rfl, -, -, idle', sent_eq, accepted, ending⟩ :=
        ih later
      obtain ⟨-, g, failed, -⟩ | ⟨asked, outcome, one, handle, idle, ended, known, makes⟩ :=
        attempt_cases tried
      · contradiction
      cases outcome with
      | fail g => contradiction
      | accept reply =>
        -- From here on there is a handle, so that the rest of the row does not ask for one.
        obtain rfl := idle' known
        refine ⟨_, makes.trans makes', asked, (⟨o, .upload t⟩, .accept reply) :: sent, last,
          by simp, one, handle, idle, by simp [sent_eq], ?_, ?_⟩
        · exact List.forall_mem_cons.mpr ⟨rfl, accepted⟩
        · cases ending with
          | complete all => exact .complete (by simp [all])
          | rejected next => exact .rejected (by simpa using next)
          | refused _ _ missing => exact absurd known missing

end Service

end ResumableUpload
