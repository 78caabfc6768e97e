import ResumableUpload.Proofs.Session.HandOver
import ResumableUpload.Proofs.Session.Opening
import ResumableUpload.Proofs.Session.Stream

/-!
# Taking a snapshot at any point

Whatever was done to a channel that was opened, and whatever failed, a snapshot of it can be taken,
provided that its session has an identifier. Opening takes the endpoint's reply as it is, so there
is one just when the reply was not empty.

## Main results

* `Channel.Sound.capture_cases` — whether a snapshot of a channel can be taken.
* `Channel.capture_of_opened` — the same for channels that were opened.
-/

namespace ResumableUpload.Channel

variable {ch ch' : Channel}

section Machine

variable [Memory]

/-- A snapshot of a sound channel is its state, unless its session has no identifier; this is
then all that is reported. -/
theorem Sound.capture_cases (sound : ch.Sound) :
    (ch.uploadId ≠ "" ∧ Snapshot.capture ch = .ok ch.state) ∨
      (ch.uploadId = "" ∧ Snapshot.capture ch = .error [⟨["upload_id"], .textNotEmpty⟩]) := by
  by_cases unidentified : ch.uploadId = ""
  · refine .inr ⟨unidentified, ?_⟩
    have describes := Snapshot.describes_fieldsOf ch
    have uploadId : (Snapshot.fieldsOf ch).lookup "upload_id" = some (.text "") := by
      rw [← unidentified]
      exact describes.uploadId
    obtain ⟨v, given, bytes⟩ := describes.buffer
    simp only [Snapshot.capture, Snapshot.ofFields, Snapshot.model,
      Field.required_of_lookup uploadId, Field.required_of_lookup describes.chunkSize,
      Field.optional_of_lookup given, Field.optional_of_lookup describes.position,
      Field.optional_of_lookup describes.isOpen, bytes, Field.notEmpty_text_empty,
      Field.notNegative_integer, Field.chunkSize_int, Field.truth, Field.reportAt, both]
  · exact .inl ⟨unidentified, (Snapshot.capture_eq_ok_iff sound).mpr ⟨unidentified, rfl⟩⟩

/-- A snapshot of a channel that was opened can be taken at any point, and it is the state of the
channel, if the endpoint's reply was not empty; if it was, no snapshot can ever be taken. Trying it
leaves the channel and the service as they are. -/
theorem capture_of_opened {origin : Origin} {session : Call} {s₀ s₁ : Service}
    (opened : origin.session? = some session) (created : origin.create s₀ = (.ok ch, s₁))
    (row : List Action) (t : Service) {passages : List Passage} {t' : Service}
    (run : ch.actions row t = (passages, ch', t')) :
    ∃ reply, (s₀.historySince s₁).getLast? = some (session, .accept reply) ∧
      (reply ≠ some "" → ch'.act .capture t' = (.ok (.snapshot ch'.state), ch', t')) ∧
      (reply = some "" →
        ch'.act .capture t' = (.error (.invalid [⟨["upload_id"], .textNotEmpty⟩]), ch', t')) := by
  obtain ⟨history, asks, -, identified⟩ := Origin.asks_create created
  obtain ⟨reply, last, empty_iff⟩ := identified ch session rfl opened
  obtain ⟨sound, -⟩ := Origin.create_spec created
  obtain ⟨sent, -, flow, sound'⟩ := sound.flow_journey run
  rw [← flow.session.uploadId] at empty_iff
  rw [asks.makes.historySince]
  refine ⟨reply, last, fun given => ?_, fun empty => ?_⟩
  · obtain ⟨-, taken⟩ | ⟨unidentified, -⟩ := sound'.capture_cases
    · rw [act, taken]
    · exact absurd (empty_iff.mp unidentified) given
  · obtain ⟨identified, -⟩ | ⟨-, refused⟩ := sound'.capture_cases
    · exact absurd (empty_iff.mpr empty) identified
    · rw [act, refused]

end Machine

/-- The session gets an identifier, a flush is rejected, and a snapshot can be taken of the channel
even after it is closed. -/
theorem capture_of_opened_rejected :
    ∃ (s₀ : Service) (ch ch' : Channel) (passages : List Passage) (s₁ t' : Service),
      s₀ = ({} : Service).setEndpoint "east"
        { sessionScript := [.accept (some "u")], uploadScript := [.fail .closed] } ∧
      (Origin.opened ⟨0, none, "east"⟩ ⟨"b", "o", none, none⟩ {} (.int 262144)).create s₀ =
        (.ok ch, s₁) ∧
      ch.actions [.operate (.flush false), .capture, .operate .close] s₁ =
        (passages, ch', t') ∧
      passages.map (·.answer.isOk) = [false, true, true] ∧
      ch'.act .capture t' = (.ok (.snapshot ch'.state), ch', t') := by
  obtain ⟨s₀, ch, ch', passages, s₁, t', eq, created, run, ended, accepted⟩ :
      ∃ (s₀ : Service) (ch ch' : Channel) (passages : List Passage) (s₁ t' : Service),
        s₀ = ({} : Service).setEndpoint "east"
          { sessionScript := [.accept (some "u")], uploadScript := [.fail .closed] } ∧
        (Origin.opened ⟨0, none, "east"⟩ ⟨"b", "o", none, none⟩ {} (.int 262144)).create s₀ =
          (.ok ch, s₁) ∧
        ch.actions [.operate (.flush false), .capture, .operate .close] s₁ =
          (passages, ch', t') ∧
        passages.map (·.answer.isOk) = [false, true, true] ∧
        (s₀.historySince s₁).getLast?.map Prod.snd = some (.accept (some "u")) :=
    ⟨_, _, _, _, _, _, rfl, rfl, rfl, by decide +kernel, by decide +kernel⟩
  obtain ⟨reply, last, taken, -⟩ := capture_of_opened rfl created _ s₁ run
  refine ⟨s₀, ch, ch', passages, s₁, t', eq, created, run, ended, taken ?_⟩
  rintro rfl
  simp [last] at accepted

/-- The endpoint's reply is empty: the channel is opened all the same, but no snapshot can be taken.
-/
theorem capture_of_opened_unidentified :
    ∃ (ch : Channel) (s₁ : Service),
      (Origin.opened ⟨0, none, "main"⟩ ⟨"b", "n", none, none⟩ {} (.int 262144)).create
          (({} : Service).setEndpoint "main" { sessionScript := [.accept (some "")] }) =
        (.ok ch, s₁) ∧
      ch.act .capture s₁ = (.error (.invalid [⟨["upload_id"], .textNotEmpty⟩]), ch, s₁) ∧
      Rule.code .textNotEmpty = "string_too_short" :=
  ⟨_, _, rfl, rfl, rfl⟩

end ResumableUpload.Channel
