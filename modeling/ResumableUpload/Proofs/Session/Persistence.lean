import ResumableUpload.Proofs.Channel.Chunking
import ResumableUpload.Proofs.Channel.Interruption
import ResumableUpload.Proofs.Session.Reachable
import ResumableUpload.Session.Persistence

/-!
# Failures do not change what is uploaded

A persistent caller gets done, whatever fails on the way, for only so many failures are to come and
each attempt that fails takes one away. In the end the same chunks were accepted as if nothing had
failed, and the channel is the same. Whatever was rejected was sent again right away, since a
channel that could not send its chunk sends that chunk before it does anything else.

## Main definitions

* `Channel.Completed` — all that is known of what a persistent caller sends.

## Main results

* `Channel.Persists.unique`, `Channel.exists_persists` — a persistent caller gets done, in one way.
* `Channel.not_persists_of_shortage` — without storage there is no end.
* `Channel.Persists.completed` — what is sent on the way.
* `Channel.persists_exactly` — the comparison with a run in which everything is accepted.
-/

namespace ResumableUpload

/-- Accepted chunks need not be sent again. -/
theorem Resent.append {first second : List Delivery} (accepted : ∀ d ∈ first, d.accepted = true)
    (resent : Resent second) : Resent (first ++ second) := by
  induction first with
  | nil => exact resent
  | cons d first ih =>
    refine ⟨fun rejected => ?_, ih fun e mem => accepted e (List.mem_cons_of_mem d mem)⟩
    rw [accepted d List.mem_cons_self] at rejected
    contradiction

namespace Channel

variable {ch ch₁ ch' : Channel} {s s₁ s' : Service} {data : ByteArray} {ds : List ByteArray}

/-! ### Getting done -/

section Machine

variable [Memory]

/-- A persistent caller gets done in one way at most. -/
theorem Persists.unique {a b : Channel} {t u : Service} (h : ch.Persists ds s a t)
    (h' : ch.Persists ds s b u) : b = a ∧ u = t := by
  induction h with
  | wrote written rest ih =>
    cases h' with
    | wrote written' rest' =>
      rw [written, Prod.mk.injEq, Prod.mk.injEq] at written'
      obtain ⟨-, rfl, rfl⟩ := written'
      exact ih rest'
    | resumed failed rest' =>
      rw [written] at failed
      simp at failed
  | resumed failed rest ih =>
    cases h' with
    | wrote written rest' =>
      rw [failed] at written
      simp at written
    | resumed failed' rest' =>
      rw [failed, Prod.mk.injEq, Prod.mk.injEq] at failed'
      obtain ⟨-, rfl, rfl⟩ := failed'
      exact ih rest'
  | closed closed =>
    cases h' with
    | closed closed' =>
      rw [closed, Prod.mk.injEq, Prod.mk.injEq] at closed'
      obtain ⟨-, rfl, rfl⟩ := closed'
      exact ⟨rfl, rfl⟩
    | retried failed rest =>
      rw [closed] at failed
      simp at failed
  | retried failed rest ih =>
    cases h' with
    | closed closed =>
      rw [failed] at closed
      simp at closed
    | retried failed' rest' =>
      rw [failed, Prod.mk.injEq, Prod.mk.injEq] at failed'
      obtain ⟨-, rfl, rfl⟩ := failed'
      exact ih rest'

/-- A write that fails although storage can be had takes away one of the failures to come. -/
theorem failuresAhead_lt_of_fill (sound : ch.Sound) (isOpen : ch.isOpen = true)
    (room : ch.HasRoom data.size) {f : Failure} (h : ch.fill data 0 s = (.error f, ch₁, s₁)) :
    s₁.failuresAhead ch.options < s.failuresAhead ch.options := by
  obtain ⟨next, sent, -, filled⟩ := fill_spec ch data 0 s sound isOpen (Nat.zero_le _) h
  obtain ⟨before, t, sends, -, ⟨-, offered, shortage, eq⟩ | ⟨-, failed⟩⟩ := fill_eq_error h
  · obtain ⟨-, found⟩ := filled.sound.fits.allocate_eq_error eq
    rw [filled.keeps.chunkSize] at found
    rcases room with available | nothing
    · rw [available] at found
      contradiction
    · omega
  · have fewer := failuresAhead_lt_of_transmit failed
    rw [filled.keeps.options] at fewer
    exact Nat.lt_of_lt_of_le fewer (Service.failuresAhead_le_of_sends sends)

/-- A persistent caller gets done if storage can be had. -/
theorem exists_persists (ch : Channel) (ds : List ByteArray) (s : Service) (sound : ch.Sound)
    (isOpen : ch.isOpen = true) (room : ∀ d ∈ ds, ch.HasRoom d.size) :
    ∃ ch' s', ch.Persists ds s ch' s' := by
  -- Each failure leaves fewer of them to come; without one there is less to write.
  match ds with
  | [] =>
    rcases closing : ch.close s with ⟨f | done, ch₁, s₁⟩
    · obtain ⟨same, -, failed⟩ := close_eq_error closing
      rw [same] at closing
      have fewer := failuresAhead_lt_of_transmit failed
      obtain ⟨ch', s', rest⟩ := exists_persists ch [] s₁ sound isOpen room
      exact ⟨ch', s', .retried closing rest⟩
    · exact ⟨ch₁, s₁, .closed closing⟩
  | data :: ds =>
    have writing := write_bytes isOpen data s
    rcases filling : ch.fill data 0 s with ⟨result, ch₁, s₁⟩
    obtain ⟨next, sent, sends, filled⟩ :=
      fill_spec ch data 0 s sound isOpen (Nat.zero_le _) filling
    have keeps := filled.keeps
    have isOpen₁ := keeps.isOpen.trans isOpen
    have room₁ : ∀ d ∈ ds, ch₁.HasRoom d.size :=
      fun d mem => keeps.hasRoom (room d (List.mem_cons_of_mem data mem))
    cases result with
    | error f =>
      have fewer := failuresAhead_lt_of_fill sound isOpen (room data List.mem_cons_self) filling
      have room₂ : ∀ d ∈ data.extract (ch₁.reach - ch.reach) data.size :: ds,
          ch₁.HasRoom d.size := by
        intro d mem
        rcases List.mem_cons.mp mem with rfl | mem
        · refine keeps.hasRoom ((room data List.mem_cons_self).imp_right fun nothing => ?_)
          rw [ByteArray.size_extract]
          omega
        · exact room₁ d mem
      obtain ⟨ch', s', rest⟩ := exists_persists ch₁ _ s₁ filled.sound isOpen₁ room₂
      exact ⟨ch', s', .resumed (writing.trans filling) rest⟩
    | ok count =>
      have noMore := Service.failuresAhead_le_of_sends (o := ch.options) sends
      obtain ⟨ch', s', rest⟩ := exists_persists ch₁ ds s₁ filled.sound isOpen₁ room₁
      exact ⟨ch', s', .wrote (writing.trans filling) rest⟩
termination_by (s.failuresAhead ch.options, ds.length)
decreasing_by
  · exact .left _ _ fewer
  · rw [keeps.options]
    exact .left _ _ fewer
  · rw [keeps.options]
    exact .right' _ noMore (Nat.lt_succ_self _)

/-- Without storage for a chunk a persistent caller never gets done. -/
theorem not_persists_of_shortage (sound : ch.Sound) (isOpen : ch.isOpen = true)
    {shortage : Shortage} (found : Shortage.ofSize? ch.chunkSize.bytes = some shortage)
    (offered : 0 < data.size) : ¬ ch.Persists (data :: ds) s ch' s' := by
  intro run
  have failed := fun s => write_of_shortage (s := s) sound isOpen found offered
  -- Every attempt leaves the caller where it was.
  generalize payloads : data :: ds = es at run
  induction run with
  | wrote written rest ih =>
    obtain ⟨rfl, rfl⟩ := List.cons.inj payloads
    rw [failed] at written
    simp at written
  | resumed broken rest ih =>
    obtain ⟨rfl, rfl⟩ := List.cons.inj payloads
    rw [failed, Prod.mk.injEq, Prod.mk.injEq] at broken
    obtain ⟨-, rfl, rfl⟩ := broken
    refine ih sound isOpen found failed ?_
    rw [Nat.sub_self, ByteArray.extract_zero_size]
  | closed => contradiction
  | retried => contradiction

/-! ### What is sent -/

/-- All that is known of what a persistent caller sends. -/
structure Completed (ch : Channel) (ds : List ByteArray) (s : Service) (sent : List Delivery)
    (ch' : Channel) (s' : Service) : Prop where
  /-- It is sent between the two states. -/
  sends : s.Sends sent s'
  /-- Whatever is rejected is sent again. -/
  resent : Resent sent
  /-- What is accepted are the chunks of writes and the final chunk of the channel they leave. -/
  accepted : ∃ full last, ch.Written ds full last ∧
    sent.filter (·.accepted) = full ++ [last.delivery true true] ∧ ch' = last.advance.shut
  /-- A chunk that waits to be sent comes first if a handle exists. -/
  first : s.HasHandle ch.options → ds = [] ∨ ch.chunkSize.bytes ≤ ch.buffer.limit →
    ∃ accepted later, sent = ch.delivery ds.isEmpty accepted :: later

namespace Completed

variable {first sent : List Delivery}

/-- A chunk that waits to be sent comes first if a write is next. -/
theorem first_of_fill (sound : ch.Sound) (isOpen : ch.isOpen = true)
    {result : Except Failure Nat} (filling : ch.fill data 0 s = (result, ch₁, s₁))
    (sends : s.Sends first s₁) (sent : List Delivery) (known : s.HasHandle ch.options)
    (waiting : data :: ds = [] ∨ ch.chunkSize.bytes ≤ ch.buffer.limit) :
    ∃ accepted later, first ++ sent = ch.delivery (data :: ds).isEmpty accepted :: later := by
  have full := waiting.resolve_left (List.cons_ne_nil data ds)
  obtain ⟨accepted, later, rfl⟩ := sound.fill_begins isOpen full known filling sends
  exact ⟨accepted, later ++ sent, rfl⟩

/-- After a write that dealt with its payload the others are written. -/
theorem wrote (sound : ch.Sound) (isOpen : ch.isOpen = true) {count : Nat}
    (filling : ch.fill data 0 s = (.ok count, ch₁, s₁)) (sends : s.Sends first s₁)
    (filled : ch.Filled data 0 data.size first (.ok data.size) ch₁)
    (rest : ch₁.Completed ds s₁ sent ch' s') :
    ch.Completed (data :: ds) s (first ++ sent) ch' s' where
  sends := sends.trans rest.sends
  resent := by
    obtain ⟨-, -, accepted, -⟩ := filled.complete data.size rfl
    exact rest.resent.append accepted
  accepted := by
    obtain ⟨-, -, accepted, -⟩ := filled.complete data.size rfl
    obtain ⟨full, last, written, kept, ended⟩ := rest.accepted
    refine ⟨first ++ full, last, .cons filled written, ?_, ended⟩
    rw [List.filter_append, List.filter_eq_self.mpr accepted, kept, List.append_assoc]
  first := first_of_fill sound isOpen filling sends sent

/-- After a write that broke off the rest of its payload is written. -/
theorem resumed (sound : ch.Sound) (isOpen : ch.isOpen = true) {f : Failure} {next : Nat}
    (filling : ch.fill data 0 s = (.error f, ch₁, s₁)) (sends : s.Sends first s₁)
    (filled : ch.Filled data 0 next first (.error f) ch₁)
    (rest : ch₁.Completed (data.extract next data.size :: ds) s₁ sent ch' s') :
    ch.Completed (data :: ds) s (first ++ sent) ch' s' where
  sends := sends.trans rest.sends
  resent := by
    obtain ⟨before, accepted, same | ⟨full, known, same⟩⟩ := sends_of_fill_error filling
    · rw [sends.unique same]
      exact rest.resent.append accepted
    · rw [sends.unique same, List.append_assoc]
      exact Resent.append accepted ⟨fun _ => rest.first known (.inr full), rest.resent⟩
  accepted := by
    obtain ⟨full, last, written, kept, ended⟩ := rest.accepted
    have whole : data.extract 0 next ++ joined (data.extract next data.size :: ds) =
        joined (data :: ds) := by
      rw [joined_cons, joined_cons, ← ByteArray.append_assoc,
        ← ByteArray.extract_eq_extract_append_extract next (Nat.zero_le _) filled.next_le,
        ByteArray.extract_zero_size]
    have small := written.small (.inl (by simp))
    rw [filled.keeps.chunkSize] at small
    refine ⟨_, last, .after filled written whole small, ?_, ended⟩
    rw [List.filter_append, kept, List.append_assoc]
  first := first_of_fill sound isOpen filling sends sent

/-- Closing sends the final chunk. -/
theorem closed (sound : ch.Sound) (sends : s.Sends [ch.delivery true true] s') :
    ch.Completed [] s [ch.delivery true true] ch.advance.shut s' where
  sends := sends
  resent := ⟨fun rejected => by contradiction, trivial⟩
  accepted := ⟨[], ch, .nil sound, rfl, rfl⟩
  first := fun _ _ => ⟨true, [], rfl⟩

/-- After closing failed the channel is closed once more. -/
theorem retried {f : Failure} (failed : ch.transmit true s = (.error f, s₁))
    (rest : ch.Completed [] s₁ sent ch' s') : ∃ sent', ch.Completed [] s sent' ch' s' := by
  rcases transmit_eq_error failed with ⟨missing, none⟩ | ⟨known, rejected⟩
  · refine ⟨sent, none.trans rest.sends, rest.resent, rest.accepted, fun known => ?_⟩
    exact absurd known missing
  · have again := rest.first known (.inl rfl)
    exact ⟨ch.delivery true false :: sent, rejected.trans rest.sends, ⟨fun _ => again, rest.resent⟩,
      rest.accepted, fun _ _ => ⟨false, sent, rfl⟩⟩

end Completed

/-- What a persistent caller sends to get done. -/
theorem Persists.completed (run : ch.Persists ds s ch' s') (sound : ch.Sound)
    (isOpen : ch.isOpen = true) : ∃ sent, ch.Completed ds s sent ch' s' := by
  induction run with
  | @wrote ch ch₁ ch' data ds s s₁ s' count written rest ih =>
    have filling := (write_bytes isOpen data s).symm.trans written
    obtain ⟨next, first, sends, filled⟩ :=
      fill_spec ch data 0 s sound isOpen (Nat.zero_le _) filling
    obtain ⟨rfl, rfl, -⟩ := filled.complete count rfl
    obtain ⟨sent, completed⟩ := ih filled.sound (filled.keeps.isOpen.trans isOpen)
    exact ⟨first ++ sent, .wrote sound isOpen filling sends filled completed⟩
  | @resumed ch ch₁ ch' data ds s s₁ s' f failed rest ih =>
    have filling := (write_bytes isOpen data s).symm.trans failed
    obtain ⟨next, first, sends, filled⟩ :=
      fill_spec ch data 0 s sound isOpen (Nat.zero_le _) filling
    obtain ⟨sent, completed⟩ := ih filled.sound (filled.keeps.isOpen.trans isOpen)
    have grown : ch₁.reach - ch.reach = next := by
      rw [filled.reach_eq sound]
      omega
    rw [grown] at completed
    exact ⟨first ++ sent, .resumed sound isOpen filling sends filled completed⟩
  | closed closed =>
    obtain ⟨shut, -⟩ | ⟨-, -, rfl, sends⟩ | ⟨-, ⟨f, failed⟩, -⟩ := close_cases closed
    · rw [isOpen] at shut
      contradiction
    · exact ⟨_, .closed sound sends⟩
    · contradiction
  | retried failed rest ih =>
    obtain ⟨rfl, -, failed⟩ := close_eq_error failed
    obtain ⟨sent, completed⟩ := ih sound isOpen
    exact completed.retried failed

/-! ### The comparison -/

/-- Failures do not change what is uploaded. A persistent caller gets done in exactly one way, and
whatever is rejected on the way is sent again as the next chunk, unchanged. What is accepted, and
the channel that is left, are those of any run of the same writes and closing in which everything is
accepted. For this storage for a chunk has to be available, or all payloads are empty. -/
theorem persists_exactly (reachable : ch.Reachable) (isOpen : ch.isOpen = true)
    (room : ∀ d ∈ ds, ch.HasRoom d.size) (write : ds ≠ [] ∨ ch.buffer.limit < ch.chunkSize.bytes)
    (s : Service) :
    ∃ ch' s', (∀ a t, ch.Persists ds s a t ↔ a = ch' ∧ t = s') ∧
      Resent (s.deliveriesSince s') ∧
      ∀ t : Service, t.Accepts ch.options → ∃ t',
        ch.performAll ((ds.map fun d => .write (.bytes d)) ++ [.close]) t =
          ((ds.map fun d => .ok (.wrote d.size)) ++ [.ok .done], ch', t') ∧
        (s.deliveriesSince s').filter (·.accepted) = t.deliveriesSince t' := by
  have sound := reachable.sound
  obtain ⟨ch', s', run⟩ := exists_persists ch ds s sound isOpen room
  obtain ⟨sent, completed⟩ := run.completed sound isOpen
  obtain ⟨full, last, written, kept, rfl⟩ := completed.accepted
  refine ⟨_, s', fun a t => ⟨run.unique, ?_⟩, ?_, fun t accepts => ?_⟩
  · rintro ⟨rfl, rfl⟩
    exact run
  · rw [completed.sends.deliveriesSince]
    exact completed.resent
  · obtain ⟨last₂, t', full₂, run₂, sends₂, written₂⟩ := performAll_closed sound isOpen accepts room
    -- Both are the chunks of one stream, and so is what is left.
    obtain ⟨chunks, ended⟩ := written.stream_eq (written.small write) rfl
    obtain ⟨chunks₂, ended₂⟩ := written₂.stream_eq (written₂.small write) rfl
    refine ⟨t', ?_, ?_⟩
    · rw [run₂, ended₂, ended]
    · rw [completed.sends.deliveriesSince, kept, sends₂.deliveriesSince, chunks, chunks₂]

end Machine

/-- No handle can be had at first, and then the final chunk is rejected once. -/
theorem persists_exactly_rejected :
    ∃ (ch ch' : Channel) (s s' t' : Service),
      make ⟨0, none, "east"⟩ ⟨"b", "o", none, none⟩ "u" (.int 262144) 5 none true = .ok ch ∧
      s = ({} : Service).setEndpoint "east"
        { handleScript := [.fail .closed], uploadScript := [.fail .closed] } ∧
      (∀ a t, ch.Persists [⟨#[1, 2]⟩, ⟨#[3]⟩] s a t ↔ a = ch' ∧ t = s') ∧
      Resent (s.deliveriesSince s') ∧
      ch.performAll [.write (.bytes ⟨#[1, 2]⟩), .write (.bytes ⟨#[3]⟩), .close] {} =
        ([.ok (.wrote 2), .ok (.wrote 1), .ok .done], ch', t') ∧
      (s.deliveriesSince s').filter (·.accepted) = Service.deliveriesSince {} t' := by
  have available : Shortage.ofSize? 262144 = none := by decide +kernel
  obtain ⟨ch, made, isOpen, options, chunkSize⟩ : ∃ ch,
      make ⟨0, none, "east"⟩ ⟨"b", "o", none, none⟩ "u" (.int 262144) 5 none true = .ok ch ∧
        ch.isOpen = true ∧ ch.options = ⟨0, none, "east"⟩ ∧ ch.chunkSize.bytes = 262144 :=
    ⟨_, rfl, rfl, rfl, rfl⟩
  have room : ∀ d ∈ [(⟨#[1, 2]⟩ : ByteArray), ⟨#[3]⟩], ch.HasRoom d.size :=
    fun _ _ => .inl (by rw [chunkSize, available])
  have accepts : Service.Accepts {} ch.options := by
    rw [options]
    exact ⟨.inr rfl, fun _ mem => by contradiction⟩
  obtain ⟨ch', s', done, resent, alike⟩ :=
    persists_exactly (Reachable.of_make ⟨by decide, by decide⟩ made) isOpen room (.inl (by simp))
      (({} : Service).setEndpoint "east"
        { handleScript := [.fail .closed], uploadScript := [.fail .closed] })
  obtain ⟨t', run, same⟩ := alike {} accepts
  exact ⟨ch, ch', _, s', t', made, rfl, done, resent, run, same⟩

/-- There is no storage for the first byte of a chunk that addresses do not reach, and so there is
no end to writing it. -/
theorem persists_exactly_unreachable :
    ∃ ch, make ⟨0, none, "main"⟩ ⟨"b", "n", none, none⟩ "u" (.int 9223372036854775808) 0 none true =
        .ok ch ∧
      ch.Reachable ∧ ch.isOpen = true ∧ ch.buffer.limit < ch.chunkSize.bytes ∧
      ∀ ch' s', ¬ ch.Persists [⟨#[1]⟩] {} ch' s' := by
  have shortage : Shortage.ofSize? 9223372036854775808 = some .addresses :=
    Shortage.ofSize?_of_addressLimit_le (by decide)
  have made : make ⟨0, none, "main"⟩ ⟨"b", "n", none, none⟩ "u" (.int 9223372036854775808) 0 none
    true = .ok (fresh _ _ _ ⟨9223372036854775808, by decide, by decide⟩) := rfl
  refine ⟨_, made, .of_make ⟨by decide, by decide⟩ made, rfl, by decide, fun ch' s' => ?_⟩
  exact not_persists_of_shortage (sound_make made) rfl shortage (by decide)

end Channel

end ResumableUpload
