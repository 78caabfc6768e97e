import ResumableUpload.Proofs.Channel.Emission

/-!
# Nothing behind the end of an object

A channel does not keep in mind that it has sent the final chunk: closing shuts it, but a flush does
not ask whether it is open, and a flush of a final chunk leaves it open. So nothing is sent behind
an accepted final chunk just when, after a stage that ends the object, no stage has anything to
send. Without flushes this is always so.

## Main results

* `Channel.emission_actions` — what a row of actions sends.
* `Channel.endsOnce_iff` — when nothing is sent behind an accepted final chunk.
* `Channel.endsOnce_of_no_flush` — rows without flushes.
-/

namespace ResumableUpload.Channel

variable {ch ch' : Channel} {s s' : Service}

/-! ### Actions -/

section Machine

variable [Memory]

/-- An action sends something just when it has something to send, and ends the object just when it
sends the final chunk and succeeds. -/
theorem emission_act {action : Action} {answer : Except Problem Answer}
    (h : ch.act action s = (answer, ch', s')) :
    ∃ sent, Emission ch.options (Passage.Sends ⟨.act action, ch, s, answer, ch', s'⟩)
        (Passage.Ends ⟨.act action, ch, s, answer, ch', s'⟩) s sent s' ∧
      ch'.options = ch.options := by
  rcases act_cases h with ⟨op, result, rfl, performed, same⟩ | ⟨rfl, rfl, rfl⟩
  · obtain ⟨sent, emission, options⟩ := emission_perform performed
    rw [← same] at emission
    exact ⟨sent, emission, options⟩
  · have idle : Emission ch'.options False False s' [] s' := .idle not_false s'
    exact ⟨[], idle.congr .rfl (by simp [Passage.Ends]), rfl⟩

/-- A row of actions begins with its first one. -/
theorem actions_cons {action : Action} {answer : Except Problem Answer}
    (h : ch.act action s = (answer, ch', s')) (row : List Action) :
    ch.actions (action :: row) s =
      (⟨.act action, ch, s, answer, ch', s'⟩ :: (ch'.actions row s').1,
        (ch'.actions row s').2) := by
  simp only [actions, List.map_cons, journey, pass, h]

/-- What a row of actions sends. When there is a handle already, it is nothing just when no stage
has anything to send; and nothing stands behind an accepted final chunk just when after a stage that
ends the object no stage has anything to send. -/
theorem emission_actions (ch : Channel) (row : List Action) (s : Service) :
    ∃ sent, s.Sends sent (ch.actions row s).2.2 ∧
      (s.HasHandle ch.options → (sent = [] ↔ ∀ p ∈ (ch.actions row s).1, ¬ p.Sends)) ∧
      (EndsOnce sent ↔ (ch.actions row s).1.Pairwise fun p q => p.Ends → ¬ q.Sends) := by
  -- The first accepted chunk brings the handle that makes everything due later be sent.
  induction row generalizing ch s with
  | nil =>
    refine ⟨[], .refl s, fun _ => ?_, ?_⟩
    · simp [actions, journey]
    · simp [actions, journey, EndsOnce]
  | cons action row ih =>
    cases eq : ch.act action s with
    | mk answer rest =>
      obtain ⟨ch₁, s₁⟩ := rest
      obtain ⟨first, emission, options⟩ := emission_act eq
      obtain ⟨later, sends, silent, once⟩ := ih ch₁ s₁
      rw [options] at silent
      rw [actions_cons eq]
      refine ⟨first ++ later, emission.sends.trans sends, ?_, ?_⟩
      · intro known
        rw [List.append_eq_nil_iff, List.forall_mem_cons, silent (emission.handle (.inl known))]
        refine and_congr_left fun _ => ?_
        constructor
        · intro nothing due
          exact emission.sent_of_due known due nothing
        · intro notDue
          by_cases nothing : first = []
          · exact nothing
          · exact absurd (emission.due_of_sent nothing) notDue
      · rw [endsOnce_append, List.pairwise_cons, once, emission.final_iff]
        constructor
        · rintro ⟨-, rest, nothing⟩
          refine ⟨fun q mem ends => ?_, rest⟩
          obtain ⟨d, sent, -⟩ := emission.final_iff.mpr ends
          have known := emission.handle (.inr (List.ne_nil_of_mem sent))
          exact (silent known).mp (nothing ends) q mem
        · rintro ⟨quiet, rest⟩
          refine ⟨emission.once, rest, fun ends => ?_⟩
          obtain ⟨d, sent, -⟩ := emission.final_iff.mpr ends
          have known := emission.handle (.inr (List.ne_nil_of_mem sent))
          exact (silent known).mpr fun q mem => quiet q mem ends

/-! ### Nothing behind the end -/

/-- Nothing is sent behind an accepted final chunk just when, after a stage that ends the object, no
stage has anything to send: there is no flush, an open channel is not closed, and not so many bytes
are written to an open channel that they fill its buffer. -/
theorem endsOnce_iff (ch : Channel) (row : List Action) (s : Service) :
    EndsOnce (s.deliveriesSince (ch.actions row s).2.2) ↔
      (ch.actions row s).1.Pairwise fun p q => p.Ends → ¬ q.Sends := by
  obtain ⟨sent, sends, -, once⟩ := emission_actions ch row s
  rw [sends.deliveriesSince]
  exact once

end Machine

/-- A channel is closed, which ends the object, and flushed: the object is ended again. -/
theorem endsOnce_iff_closed_flushed :
    ∃ ch, make ⟨0, none, "main"⟩ ⟨"b", "n", none, none⟩ "u" (.int 262144) 0 none true = .ok ch ∧
      Service.deliveriesSince {} (ch.actions [.operate .close, .operate (.flush true)] {}).2.2 =
        [ch.delivery true true, ch.delivery true true] ∧
      ¬ EndsOnce (Service.deliveriesSince {}
        (ch.actions [.operate .close, .operate (.flush true)] {}).2.2) := by
  have made : make ⟨0, none, "main"⟩ ⟨"b", "n", none, none⟩ "u" (.int 262144) 0 none true =
    .ok _ := rfl
  refine ⟨_, made, ?_, ?_⟩
  · decide +kernel
  · decide +kernel

variable [Memory]

/-- A closed channel is left as it is by everything but a flush, and nothing else has anything to
send. -/
theorem act_of_closed (closed : ch.isOpen = false) {action : Action}
    (noFlush : ∀ final, action ≠ .operate (.flush final)) {answer : Except Problem Answer}
    (h : ch.act action s = (answer, ch', s')) :
    ch' = ch ∧ ¬ Passage.Sends ⟨.act action, ch, s, answer, ch', s'⟩ := by
  rcases act_cases h with ⟨op, result, rfl, performed, -⟩ | ⟨rfl, rfl, -⟩
  · rcases perform_cases performed with ⟨payload, r, rfl, wrote, -⟩ | ⟨final, r, rfl, -⟩ |
      ⟨r, op_eq, ended, -⟩ | ⟨size, rfl, set, -⟩ | ⟨op_eq, rfl, -⟩
    · rcases write_cases wrote with ⟨data, -, isOpen, -⟩ | ⟨-, rfl, -⟩
      · rw [closed] at isOpen
        contradiction
      · refine ⟨rfl, ?_⟩
        cases payload <;> simp [Passage.Sends, SendsOn, closed]
    · exact absurd rfl (noFlush final)
    · rcases close_cases ended with ⟨-, -, rfl, -⟩ | ⟨isOpen, -⟩ | ⟨isOpen, -⟩
      · refine ⟨rfl, ?_⟩
        rcases op_eq with rfl | rfl
        · simp [Passage.Sends, SendsOn, closed]
        · simp [Passage.Sends, SendsOn, closed]
      · rw [closed] at isOpen
        contradiction
      · rw [closed] at isOpen
        contradiction
    · obtain ⟨isOpen, -⟩ := setChunkSize_eq_ok set
      rw [closed] at isOpen
      contradiction
    · refine ⟨rfl, ?_⟩
      rcases op_eq with ⟨size, rfl⟩ | rfl
      · exact not_false
      · simp [Passage.Sends, SendsOn]
  · exact ⟨rfl, not_false⟩

omit [Memory] in
/-- When closing an open channel succeeds the channel is closed. -/
theorem closed_of_close {result : Except Failure Unit} (h : ch.close s = (result, ch', s'))
    (succeeds : result.isOk = true) (isOpen : ch.isOpen = true) : ch'.isOpen = false := by
  rcases close_cases h with ⟨closed, -⟩ | ⟨-, -, rfl, -⟩ | ⟨-, ⟨f, rfl⟩, -⟩
  · rw [isOpen] at closed
    contradiction
  · rfl
  · contradiction

/-- An action that ends the object, and is no flush, closes the channel. -/
theorem closed_of_ends {action : Action} (noFlush : ∀ final, action ≠ .operate (.flush final))
    {answer : Except Problem Answer} (h : ch.act action s = (answer, ch', s'))
    (ends : Passage.Ends ⟨.act action, ch, s, answer, ch', s'⟩) : ch'.isOpen = false := by
  obtain ⟨succeeds, final⟩ := ends
  rcases act_cases h with ⟨op, result, rfl, performed, same⟩ | ⟨rfl, -⟩
  · have succeeds : result.isOk = true := same.symm.trans succeeds
    rcases perform_cases performed with ⟨payload, r, rfl, -⟩ | ⟨last, r, rfl, -⟩ |
      ⟨r, rfl | rfl, closed, rfl⟩ | ⟨size, rfl, -⟩ | ⟨⟨size, rfl⟩ | rfl, -⟩
    · contradiction
    · exact absurd rfl (noFlush last)
    · rw [isOk_map] at succeeds
      exact closed_of_close closed succeeds final
    · rw [isOk_map] at succeeds
      exact closed_of_close closed succeeds final.2
    · contradiction
    · contradiction
    · exact absurd final.1 Bool.false_ne_true.symm
  · contradiction

/-- A closed channel stays quiet without flushes. -/
theorem not_sends_of_closed (closed : ch.isOpen = false) {row : List Action}
    (noFlush : ∀ action ∈ row, ∀ final, action ≠ .operate (.flush final)) (s : Service) :
    ∀ p ∈ (ch.actions row s).1, ¬ p.Sends := by
  induction row generalizing s with
  | nil => simp [actions, journey]
  | cons action row ih =>
    cases eq : ch.act action s with
    | mk answer rest =>
      obtain ⟨ch₁, s₁⟩ := rest
      obtain ⟨rfl, quiet⟩ := act_of_closed closed (noFlush action List.mem_cons_self) eq
      rw [actions_cons eq]
      intro p mem
      rcases List.mem_cons.mp mem with rfl | mem
      · exact quiet
      · exact ih (fun a mem => noFlush a (List.mem_cons_of_mem action mem)) s₁ p mem

/-- Without flushes nothing is sent behind an accepted final chunk. -/
theorem endsOnce_of_no_flush (ch : Channel) {row : List Action}
    (noFlush : ∀ action ∈ row, ∀ final, action ≠ .operate (.flush final)) (s : Service) :
    EndsOnce (s.deliveriesSince (ch.actions row s).2.2) := by
  obtain ⟨sent, sends, -, once⟩ := emission_actions ch row s
  rw [sends.deliveriesSince, once]
  clear sent sends once
  induction row generalizing ch s with
  | nil => simp [actions, journey]
  | cons action row ih =>
    cases eq : ch.act action s with
    | mk answer rest =>
      obtain ⟨ch₁, s₁⟩ := rest
      have later : ∀ a ∈ row, ∀ final, a ≠ .operate (.flush final) :=
        fun a mem => noFlush a (List.mem_cons_of_mem action mem)
      rw [actions_cons eq, List.pairwise_cons]
      constructor
      · intro q mem ends
        have closed := closed_of_ends (noFlush action List.mem_cons_self) eq ends
        exact not_sends_of_closed closed later s₁ q mem
      · exact ih ch₁ later s₁

end ResumableUpload.Channel
