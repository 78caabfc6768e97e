import ResumableUpload.Proofs.Channel.Operations
import ResumableUpload.Proofs.Service.Obliging

/-!
# Operations on obliging endpoints

What an operation answers, which chunks it sends and which channel it leaves is up to the channel
alone as long as its endpoint is obliging. The rest of the service, whatever others have asked of
it, and whether there is a handle already, play no part.

## Main definitions

* `Channel.Steady` — something that comes out the same on all services with an obliging endpoint.

## Main results

* `Channel.steady_fill` — writing bytes is steady.
* `Channel.steady_perform` — so is any operation.
-/

namespace ResumableUpload.Channel

variable {ch : Channel} {s : Service}

/-- On every service on which the endpoint of the channel is obliging, the same is answered, the
same chunks are sent, the same is told at the end, and the same channel is left. -/
def Steady {α : Type} (ch : Channel)
    (act : Service → Except Failure α × Channel × Service) : Prop :=
  ∃ result ch' ts events, ch'.options = ch.options ∧
    ∀ s, (s.endpoints ch.options.endpoint).Obliging →
      ∃ s', s.Served ch.options ch.blob.id ts s' ∧ act s = (result, ch', s'.noteAll events)

/-- What concerns the service in no way is steady. -/
theorem steady_idle {α : Type} {ch' : Channel} (options : ch'.options = ch.options)
    (result : Except Failure α) : ch.Steady fun s => (result, ch', s) :=
  ⟨result, ch', [], [], options, fun s _ => ⟨s, .refl _ _ s, by rw [Service.noteAll_nil]⟩⟩

/-- An answer may be told in another way. -/
theorem Steady.map {α β : Type} {act : Service → Except Failure α × Channel × Service}
    (steady : ch.Steady act) (f : α → β) :
    ch.Steady fun s => ((act s).1.map f, (act s).2) := by
  obtain ⟨result, ch', ts, events, options, acts⟩ := steady
  refine ⟨result.map f, ch', ts, events, options, fun s obliging => ?_⟩
  obtain ⟨s', served, eq⟩ := acts s obliging
  refine ⟨s', served, ?_⟩
  simp only [eq]

/-- The buffered bytes are accepted by an obliging endpoint. -/
theorem transmit_of_obliging (obliging : (s.endpoints ch.options.endpoint).Obliging)
    (final : Bool) :
    ∃ s₁, ch.transmit final s = (.ok (), s₁) ∧ s₁.HasHandle ch.options ∧
      s.Served ch.options ch.blob.id [ch.chunk final] s₁ :=
  Service.served_attempt obliging ch.blob.id (ch.chunk final)

variable [Memory]

/-- Writing bytes is steady. -/
theorem steady_fill (ch : Channel) (data : ByteArray) (offset : Nat) (s₀ : Service)
    (obliging₀ : (s₀.endpoints ch.options.endpoint).Obliging) :
    ∃ result ch' ts, ch'.options = ch.options ∧
      ∀ s, (s.endpoints ch.options.endpoint).Obliging →
        ∃ s', s.Served ch.options ch.blob.id ts s' ∧ ch.fill data offset s = (result, ch', s') := by
  -- The recursion is followed on some obliging service; what it finds there holds for all of them.
  fun_induction fill ch data offset s₀ with
  | case1 ch offset s₀ full f s₁ eq =>
    obtain ⟨s₂, sent, -⟩ := transmit_of_obliging obliging₀ false
    rw [eq] at sent
    simp at sent
  | case2 ch offset s₀ full s₁ eq ih =>
    obtain ⟨s₂, sent, -, served⟩ := transmit_of_obliging obliging₀ false
    rw [eq] at sent
    obtain rfl : s₁ = s₂ := congrArg Prod.snd sent
    obtain ⟨result, ch', ts, options, fills⟩ := ih (served.obliging _ obliging₀)
    refine ⟨result, ch', ch.chunk false :: ts, options, fun s obliging => ?_⟩
    obtain ⟨s₁, sent, known, first⟩ := transmit_of_obliging obliging false
    obtain ⟨s', rest, filled⟩ := fills s₁ (first.obliging _ obliging)
    refine ⟨s', first.cons known rest, ?_⟩
    rw [fill, if_pos full, sent]
    exact filled
  | case3 ch offset s₀ small rest shortage eq =>
    refine ⟨.error (shortageFailure shortage), ch, [], rfl, fun s _ => ⟨s, .refl _ _ s, ?_⟩⟩
    rw [fill, if_neg small, if_pos rest, eq]
  | case4 ch offset s₀ small rest buffer eq count ih =>
    obtain ⟨result, ch', ts, options, fills⟩ := ih obliging₀
    refine ⟨result, ch', ts, options, fun s obliging => ?_⟩
    obtain ⟨s', served, filled⟩ := fills s obliging
    refine ⟨s', served, ?_⟩
    rw [fill, if_neg small, if_pos rest, eq]
    exact filled
  | case5 ch offset s₀ small done =>
    refine ⟨.ok offset, ch, [], rfl, fun s _ => ⟨s, .refl _ _ s, ?_⟩⟩
    rw [fill, if_neg small, if_neg done]

/-- Writing is steady. -/
theorem steady_write (ch : Channel) (payload : Payload) : ch.Steady (ch.write payload) := by
  unfold write
  cases isOpen : ch.isOpen with
  | false => exact steady_idle rfl _
  | true =>
    cases payload with
    | bytes data =>
      obtain ⟨result, ch', ts, options, fills⟩ :=
        steady_fill ch data 0 {} ⟨by simp, by simp⟩
      refine ⟨result, ch', ts, [], options, fun s obliging => ?_⟩
      obtain ⟨s', served, filled⟩ := fills s obliging
      exact ⟨s', served, by rw [Service.noteAll_nil]; exact filled⟩
    | noBytes typeName => exact steady_idle rfl _
    | scattered => exact steady_idle rfl _

omit [Memory] in
/-- Flushing is steady. -/
theorem steady_flush (ch : Channel) (final : Bool) : ch.Steady (ch.flush final) := by
  refine ⟨.ok (), ch.advance, [ch.chunk final], [], rfl, fun s obliging => ?_⟩
  obtain ⟨s', sent, -, served⟩ := transmit_of_obliging obliging final
  exact ⟨s', served, by rw [flush, sent, Service.noteAll_nil]⟩

omit [Memory] in
/-- Closing is steady. -/
theorem steady_close (ch : Channel) : ch.Steady ch.close := by
  unfold close
  cases isOpen : ch.isOpen with
  | false => exact steady_idle rfl _
  | true =>
    refine ⟨.ok (), ch.advance.shut, [ch.chunk true], [.channelClosed ch.advance.position,
      .uploadFinalized ch.advance.blob.id ch.advance.position], rfl, fun s obliging => ?_⟩
    obtain ⟨s', sent, -, served⟩ := transmit_of_obliging obliging true
    have flushed : ch.flush true s = (.ok (), ch.advance, s') := by rw [flush, sent]
    refine ⟨s', served, ?_⟩
    simp only [Bool.not_true, Bool.false_eq_true, if_false, flushed]

/-- Every operation is steady. -/
theorem steady_perform (ch : Channel) (op : Operation) : ch.Steady (ch.perform op) := by
  cases op with
  | write payload => exact (steady_write ch payload).map Reply.wrote
  | flush final => exact (steady_flush ch final).map fun _ => Reply.done
  | close => exact (steady_close ch).map fun _ => Reply.done
  | setChunkSize size =>
    cases set : ch.setChunkSize size with
    | error f =>
      have eq : ch.perform (.setChunkSize size) = fun s => (.error f, ch, s) := by
        funext s
        simp only [perform, set]
      rw [eq]
      exact steady_idle rfl _
    | ok ch' =>
      have eq : ch.perform (.setChunkSize size) = fun s => (.ok .done, ch', s) := by
        funext s
        simp only [perform, set]
      obtain ⟨-, -, -, chunkSize, -, changed⟩ := setChunkSize_eq_ok set
      have options : ch'.options = ch.options := by rw [changed]
      rw [eq]
      exact steady_idle options (.ok Reply.done)
  | leave failed =>
    cases failed with
    | true => exact steady_idle rfl _
    | false => exact (steady_close ch).map fun _ => Reply.done

end ResumableUpload.Channel
