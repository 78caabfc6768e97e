import ResumableUpload.Proofs.Channel.Operations
import ResumableUpload.Proofs.Session.HandOver
import ResumableUpload.Proofs.Session.Origin

/-!
# The stream of a session

Over a whole journey the endpoint gets the bytes that were held at the beginning and those that were
written since, in order and each once, as far as they are not buffered still. It does not matter
which chunks were rejected on the way, where a write broke off, or how often another channel took
over.

## Main definitions

* `Passage.consumed` — the bytes that a stage takes in.

## Main results

* `Channel.Sound.flow_journey` — the flow of bytes through a journey.
* `Channel.Sound.forall_journey`, `Channel.Sound.related_journey` — from single stages to journeys.
* `Channel.journey_stream` — what was accepted, where it was placed, and what is buffered.
-/

namespace ResumableUpload

/-- The bytes that a stage takes in. -/
def Passage.consumed (p : Passage) : ByteArray :=
  match p.stage with
  | .act (.operate op) => op.consumed p.before p.answer.isOk p.after
  | _ => .empty

/-- Only writes take bytes in. -/
theorem Passage.consumed_of_no_write {p : Passage}
    (noWrite : ∀ payload, p.stage ≠ .act (.operate (.write payload))) : p.consumed = .empty := by
  obtain ⟨stage, before, start, answer, after, finish⟩ := p
  cases stage with
  | act action =>
    cases action with
    | operate op =>
      cases op with
      | write payload => exact absurd rfl (noWrite payload)
      | _ => rfl
    | capture => rfl
  | handOver reader => rfl

namespace Channel

variable {ch ch' : Channel} {s s' : Service}

section Machine

variable [Memory]

/-- What the stage of a hand-over does: another channel takes over, or everything stays with the
channel at hand. Nothing is sent either way. -/
theorem pass_handOver_cases {reader : Option ServiceOptions} {answer : Except Problem Answer}
    (h : ch.pass (.handOver reader) s = (answer, ch', s')) :
    s.Sends [] s' ∧
      (ch.handOver reader s = (.ok ch', s') ∨
        ((∃ problem, answer = .error problem) ∧ ch' = ch)) := by
  have sends := sends_handOver ch reader s
  simp only [pass] at h
  split at h
  next problem s₁ failed =>
    simp only [Prod.mk.injEq] at h
    obtain ⟨rfl, rfl, rfl⟩ := h
    rw [failed] at sends
    exact ⟨sends, .inr ⟨⟨problem, rfl⟩, rfl⟩⟩
  next ch₁ s₁ taken =>
    simp only [Prod.mk.injEq] at h
    obtain ⟨-, rfl, rfl⟩ := h
    rw [taken] at sends
    exact ⟨sends, .inl taken⟩

/-- A hand-over keeps a channel sound, and no bytes flow. -/
theorem Sound.flow_handOver (sound : ch.Sound) {reader : Option ServiceOptions}
    (h : ch.handOver reader s = (.ok ch', s')) : ch.Flow .empty [] ch' ∧ ch'.Sound := by
  obtain ⟨sound', state⟩ := handOver_eq_ok sound h
  have session : ch.SameSession ch' :=
    ⟨congrArg Snapshot.blob state, congrArg Snapshot.uploadId state⟩
  have position : ch'.position = ch.position := congrArg Snapshot.position state
  exact ⟨.of_same session position (contents_of_state sound sound' state), sound'⟩

/-- A stage keeps a channel sound, and bytes flow in and out in order. -/
theorem Sound.flow_pass (sound : ch.Sound) {stage : Stage} {answer : Except Problem Answer}
    (h : ch.pass stage s = (answer, ch', s')) :
    ∃ sent, s.Sends sent s' ∧
      ch.Flow (Passage.consumed ⟨stage, ch, s, answer, ch', s'⟩) sent ch' ∧ ch'.Sound := by
  cases stage with
  | act action =>
    rcases act_cases h with ⟨op, result, rfl, performed, same⟩ | ⟨rfl, rfl, rfl⟩
    · have flow := sound.flow_perform performed
      rw [← same] at flow
      exact flow
    · exact ⟨[], .refl s', .refl ch', sound⟩
  | handOver reader =>
    obtain ⟨sends, taken | ⟨-, rfl⟩⟩ := pass_handOver_cases h
    · exact ⟨[], sends, sound.flow_handOver taken⟩
    · exact ⟨[], sends, .refl ch', sound⟩

/-- A journey keeps a channel sound, and bytes flow in and out in order. -/
theorem Sound.flow_journey (sound : ch.Sound) {stages : List Stage} {passages : List Passage}
    (h : ch.journey stages s = (passages, ch', s')) :
    ∃ sent, s.Sends sent s' ∧ ch.Flow (joined (passages.map Passage.consumed)) sent ch' ∧
      ch'.Sound := by
  induction stages generalizing ch s passages with
  | nil =>
    simp only [journey, Prod.mk.injEq] at h
    obtain ⟨rfl, rfl, rfl⟩ := h
    exact ⟨[], .refl s, .refl ch, sound⟩
  | cons stage stages ih =>
    obtain ⟨answer, ch₁, s₁, later, passed, more, rfl⟩ := journey_cons h
    obtain ⟨first, sends₁, flow₁, sound₁⟩ := sound.flow_pass passed
    obtain ⟨second, sends₂, flow₂, sound₂⟩ := ih sound₁ more
    exact ⟨first ++ second, sends₁.trans sends₂, flow₁.trans flow₂, sound₂⟩

/-- What holds of every stage of a sound channel holds all along a journey. -/
theorem Sound.forall_journey {P : Passage → Prop}
    (step : ∀ p : Passage, p.before.Sound →
      p.before.pass p.stage p.start = (p.answer, p.after, p.finish) → P p)
    (sound : ch.Sound) {stages : List Stage} {passages : List Passage}
    (h : ch.journey stages s = (passages, ch', s')) : ∀ p ∈ passages, P p := by
  induction stages generalizing ch s passages with
  | nil =>
    simp only [journey, Prod.mk.injEq] at h
    obtain ⟨rfl, -, -⟩ := h
    simp
  | cons stage stages ih =>
    obtain ⟨answer, ch₁, s₁, later, passed, more, rfl⟩ := journey_cons h
    obtain ⟨-, -, -, sound₁⟩ := sound.flow_pass passed
    intro p mem
    rcases List.mem_cons.mp mem with rfl | mem
    · exact step _ sound passed
    · exact ih sound₁ more p mem

/-- A relation between channels that every stage keeps up holds from the beginning of a journey to
its end. -/
theorem Sound.related_journey {R : Channel → Channel → Prop} (refl : ∀ a, R a a)
    (trans : ∀ {a b c}, R a b → R b c → R a c) {stages : List Stage}
    (step : ∀ stage ∈ stages, ∀ {a b : Channel} {t u : Service} {answer : Except Problem Answer},
      a.Sound → a.pass stage t = (answer, b, u) → R a b)
    (sound : ch.Sound) {passages : List Passage}
    (h : ch.journey stages s = (passages, ch', s')) : R ch ch' := by
  induction stages generalizing ch s passages with
  | nil =>
    simp only [journey, Prod.mk.injEq] at h
    obtain ⟨-, rfl, -⟩ := h
    exact refl ch
  | cons stage stages ih =>
    obtain ⟨answer, ch₁, s₁, later, passed, more, -⟩ := journey_cons h
    obtain ⟨-, -, -, sound₁⟩ := sound.flow_pass passed
    have first := step stage List.mem_cons_self sound passed
    exact trans first (ih (fun e mem => step e (List.mem_cons_of_mem stage mem)) sound₁ more)

/-- The stream of a session. What was accepted and what is buffered is, in this order, what the
channel held at the beginning and what was written since. Every chunk sent, accepted or not, was
whole and was to be placed behind those accepted before it. Position and limit tell how much was
accepted and how much is buffered. -/
theorem journey_stream {origin : Origin} {ch ch' : Channel} {stages : List Stage}
    {passages : List Passage} {s₀ s₁ s₂ : Service} (created : origin.create s₀ = (.ok ch, s₁))
    (run : ch.journey stages s₁ = (passages, ch', s₂)) :
    acceptedBytes (s₁.deliveriesSince s₂) ++ ch'.buffer.contents =
        origin.buffered ++ joined (passages.map Passage.consumed) ∧
      (∀ before d after, s₁.deliveriesSince s₂ = before ++ d :: after →
        d.chunk.offset = 0 ∧ d.chunk.length = d.chunk.data.size ∧
          (d.chunk.position : Int) = origin.position + (acceptedBytes before).size) ∧
      (ch'.position : Int) = origin.position + (acceptedBytes (s₁.deliveriesSince s₂)).size ∧
      ch'.buffer.limit = ch'.buffer.contents.size := by
  obtain ⟨sound, position, buffered⟩ := origin.create_spec created
  obtain ⟨sent, sends, flow, sound'⟩ := sound.flow_journey run
  rw [sends.deliveriesSince, ← position, ← buffered]
  refine ⟨flow.stream, ?_, ?_, sound'.size_contents.symm⟩
  · rintro before d after rfl
    obtain ⟨offset, length, placed⟩ := flow.aligned.chunk
    exact ⟨offset, length, by rw [placed, Int.natCast_add]⟩
  · rw [flow.position, Int.natCast_add]

end Machine

/-- Three bytes are written; closing is rejected once, and a channel restored from a document goes
on and closes. -/
theorem journey_stream_restored :
    ∃ (ch ch' : Channel) (passages : List Passage) (s₁ s₂ : Service),
      (Origin.made ⟨0, none, "east"⟩ ⟨"b", "o", none, none⟩ "u" (.int 262144) 5 none true).create
          (({} : Service).setEndpoint "east" { uploadScript := [.fail .closed] }) = (.ok ch, s₁) ∧
      ch.journey [.act (.operate (.write (.bytes ⟨#[1, 2, 3]⟩))), .act (.operate .close),
          .handOver (some ⟨1, none, "west"⟩), .act (.operate .close)] s₁ = (passages, ch', s₂) ∧
      acceptedBytes (s₁.deliveriesSince s₂) ++ ch'.buffer.contents =
        .empty ++ joined (passages.map Passage.consumed) ∧
      (∀ before d after, s₁.deliveriesSince s₂ = before ++ d :: after →
        d.chunk.offset = 0 ∧ d.chunk.length = d.chunk.data.size ∧
          (d.chunk.position : Int) = 5 + (acceptedBytes before).size) ∧
      (ch'.position : Int) = 5 + (acceptedBytes (s₁.deliveriesSince s₂)).size ∧
      ch'.buffer.limit = ch'.buffer.contents.size := by
  obtain ⟨ch, s₁, created⟩ : ∃ ch s₁,
      (Origin.made ⟨0, none, "east"⟩ ⟨"b", "o", none, none⟩ "u" (.int 262144) 5 none true).create
        (({} : Service).setEndpoint "east" { uploadScript := [.fail .closed] }) = (.ok ch, s₁) :=
    ⟨_, _, rfl⟩
  obtain ⟨passages, ch', s₂, run⟩ : ∃ passages ch' s₂,
      ch.journey [.act (.operate (.write (.bytes ⟨#[1, 2, 3]⟩))), .act (.operate .close),
        .handOver (some ⟨1, none, "west"⟩), .act (.operate .close)] s₁ = (passages, ch', s₂) :=
    ⟨_, _, _, rfl⟩
  exact ⟨ch, ch', passages, s₁, s₂, created, run, journey_stream created run⟩

end Channel

end ResumableUpload
