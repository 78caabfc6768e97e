import Mathlib.Data.List.Nodup
import ResumableUpload.Proofs.Session.Connecting
import ResumableUpload.Session.Counterpart

/-!
# The two ways to open a channel compared

Opening a channel takes a chunk size, which depends on the environment, a handle and a session, for
which the outcomes to come decide what is asked for. So on services with the same prospects the two
ways to open a channel ask alike. A handle may be refused; then there is no session to ask for.

## Main results

* `SessionOptions.carried_wireParameters` — the options of a session on the wire.
* `Channel.agreeBut_surface` — the failures that come out agree.
* `Channel.askAlike_announce`, `Channel.openAlike` — the two ways to open a channel proceed alike.
-/

namespace ResumableUpload

/-! ### The options of a session -/

/-- All options that there are. -/
def SessionOption.all : List SessionOption := [generation, metageneration, acl, project, key]

/-- No option is left out. -/
theorem SessionOption.mem_all (option : SessionOption) : option ∈ all := by
  cases option <;> decide

/-- Different options have different names on the wire. -/
theorem SessionOption.eq_of_wireName {a b : SessionOption} (same : a.wireName = b.wireName) :
    a = b := by
  cases a <;> cases b <;> first | rfl | exact absurd same (by decide)

/-- The parameters of a request carry the options of the session. -/
theorem SessionOptions.carried_wireParameters (o : SessionOptions) :
    o.Carried o.wireParameters := by
  have one : o.wireParameters = SessionOption.all.filterMap fun option =>
      (o.value option).map (Prod.mk option.wireName) := rfl
  refine ⟨fun a b => SessionOption.eq_of_wireName, ?_, fun name v => ?_⟩
  · rw [one, List.map_filterMap]
    refine List.Nodup.filterMap (fun a b name here there => ?_) (by decide)
    simp only [Option.map_map, Option.mem_def, Option.map_eq_some_iff, Function.comp_apply]
      at here there
    obtain ⟨-, -, rfl⟩ := here
    obtain ⟨-, -, same⟩ := there
    exact SessionOption.eq_of_wireName same.symm
  · rw [one, List.mem_filterMap]
    simp only [SessionOption.mem_all, true_and, Option.map_eq_some_iff, Prod.mk.injEq]
    constructor
    · rintro ⟨option, w, set, rfl, rfl⟩
      exact ⟨option, rfl, set⟩
    · rintro ⟨option, rfl, set⟩
      exact ⟨option, v, set, rfl, rfl⟩

namespace Channel

variable {o : ServiceOptions} {s t : Service}

/-! ### The failures that come out -/

/-- A failure that comes out of attempts tells of them at most by their description. -/
theorem agreeBut_surface (description description' : String) (f : Failure) :
    (Retry.surface description f).AgreeBut description description'
      (Retry.surface description' f) := by
  have said : ∀ d, Retry.words d f = "Failed to " ++ d ++ (": " ++ f.fault.literal) := fun d => by
    rw [Retry.words_eq, String.append_assoc]
  rw [Retry.surface, Retry.surface]
  split
  next ordinary =>
    rw [Failure.wrap, Failure.wrap]
    split
    · exact .same
    next foreign =>
      rw [Failure.causing, Failure.causing,
        StorageFault.plain_of_ne _ (Retry.words_ne description f),
        StorageFault.plain_of_ne _ (Retry.words_ne description' f), said, said]
      exact .described
  next stop => exact .same

/-! ### Openings compared -/

/-- Settling the chunk size depends on the environment alone, and only tells events. -/
theorem settleChunkSize_congr (requested : Value) (same : t.environment = s.environment) :
    ∃ settled events, settleChunkSize requested s = (settled, s.noteAll events) ∧
      settleChunkSize requested t = (settled, t.noteAll events) := by
  cases requested with
  | null =>
    rw [settleChunkSize, settleChunkSize, same]
    rcases Config.resolve s.environment {} [] with ⟨report | config, events⟩
    · exact ⟨_, events, rfl, rfl⟩
    · exact ⟨_, events, rfl, rfl⟩
  | _ =>
    simp only [settleChunkSize]
    split
    · exact ⟨_, [], by rw [Service.noteAll_nil], by rw [Service.noteAll_nil]⟩
    · exact ⟨_, [], by rw [Service.noteAll_nil], by rw [Service.noteAll_nil]⟩

/-- Events change no prospects. -/
theorem sameProspects_noteAll (same : s.SameProspects o t) (events events' : List Event) :
    (s.noteAll events).SameProspects o (t.noteAll events') :=
  ⟨same.environment, same.known, same.handles, same.sessions⟩

/-- Services with the same prospects grant handles alike. -/
theorem granting_congr (same : s.SameProspects o t) : t.granting o = s.granting o := by
  have known : t.handles.contains o.identity = s.handles.contains o.identity :=
    Bool.eq_iff_iff.mpr same.known
  rw [Service.granting, Service.granting, known, same.handles]

/-- Services with the same prospects are ready alike. -/
theorem ready_congr (same : s.SameProspects o t) : t.Ready o ↔ s.Ready o := by
  rw [Service.Ready, Service.Ready, same.known, same.handles]

section Ends

variable {blob target : Blob} {chunkSize : ChunkSize} {description description' : String}
  {event event' : String → String → Event} {opened opened' : Except Failure String × Service}

/-- When the last outcome for a session is the same, two openings end alike. -/
theorem endsAlike_of_last {outcomes : List Outcome} {last : Outcome}
    (ending : outcomes.getLast? = some last)
    (result : opened.1 = (s.identified o last).mapError (Retry.surface description))
    (result' : opened'.1 = (t.identified o last).mapError (Retry.surface description')) :
    EndsAlike o s t chunkSize description description' outcomes
      (announce o blob chunkSize event opened).1
      (announce o target chunkSize event' opened').1 := by
  obtain ⟨answer, s₁⟩ := opened
  obtain ⟨answer', t₁⟩ := opened'
  cases last with
  | accept reply =>
    obtain rfl : answer = .ok (Service.countSession o reply s).1 := result
    obtain rfl : answer' = .ok (Service.countSession o reply t).1 := result'
    exact .opened ending ⟨rfl, rfl, rfl, rfl, rfl⟩ ⟨rfl, rfl, rfl, rfl, rfl⟩
  | fail f =>
    obtain rfl : answer = .error (Retry.surface description f) := result
    obtain rfl : answer' = .error (Retry.surface description' f) := result'
    exact .failed (by simp [ending]) (agreeBut_surface description description' f)

/-- When both handles are refused, two openings end alike. -/
theorem endsAlike_of_refusal {f : Failure} (result : opened.1 = .error f)
    (result' : opened'.1 = .error f) :
    EndsAlike o s t chunkSize description description' []
      (announce o blob chunkSize event opened).1
      (announce o target chunkSize event' opened').1 := by
  obtain ⟨answer, s₁⟩ := opened
  obtain ⟨answer', t₁⟩ := opened'
  obtain rfl : answer = .error f := result
  obtain rfl : answer' = .error f := result'
  exact .failed (by simp) .same

end Ends

/-- Once the chunk size is settled, which tells events, and the blob is known, two openings ask
alike and end alike. -/
theorem askAlike_announce (same : s.SameProspects o t) (events : List Event) (blob target : Blob)
    (chunkSize : ChunkSize) (parameters : List (String × Parameter)) (url : String)
    (description description' : String) (event event' : String → String → Event) :
    AskAlike o s t chunkSize description description' (.session blob parameters)
      (.signedSession url)
      (announce o blob chunkSize event
        (connect o description (Service.openSession o blob parameters) (s.noteAll events)))
      (announce o target chunkSize event'
        (connect o description' (Service.openSignedSession o url) (t.noteAll events))) := by
  have noted : s.Makes [] (s.noteAll events) := (Service.Makes.refl s).of_record rfl (.refl s)
  have noted' : t.Makes [] (t.noteAll events) := (Service.Makes.refl t).of_record rfl (.refl t)
  have granted : (t.noteAll events).granting o = (s.noteAll events).granting o :=
    granting_congr (sameProspects_noteAll same events events)
  have script : ((t.noteAll events).endpoints o.endpoint).script (.signedSession url) =
    ((s.noteAll events).endpoints o.endpoint).script (.session blob parameters) := same.sessions
  by_cases ready : s.Ready o
  · have notHandle : Request.session blob parameters ≠ .handle := by simp
    have notHandle' : Request.signedSession url ≠ .handle := by simp
    obtain ⟨last, ending, makes, result⟩ :=
      connect_of_ready (s := s.noteAll events) notHandle description ready
    obtain ⟨last', ending', makes', result'⟩ := connect_of_ready (s := t.noteAll events) notHandle'
      description' ((ready_congr same).mpr ready)
    rw [script] at ending' makes'
    rw [granted] at makes'
    obtain rfl : last = last' := Option.some.inj (ending.symm.trans ending')
    refine ⟨_, _, (noted.trans (makes_announce makes)).historySince,
      (noted'.trans (makes_announce makes')).historySince, (s.noteAll events).length_granting_le o,
      fun _ => ?_, fun refused => absurd ready refused, endsAlike_of_last ending result result'⟩
    have few := Retry.length_met Retry.repetitions
      (((s.noteAll events).endpoints o.endpoint).script (.session blob parameters))
    rw [Retry.repetitions] at few ⊢
    omega
  · obtain ⟨f, refusal, makes, result⟩ := connect_of_not_ready (s := s.noteAll events)
      (.session blob parameters) description ready
    obtain ⟨f', refusal', makes', result'⟩ := connect_of_not_ready (s := t.noteAll events)
      (.signedSession url) description' ((ready_congr same).not.mpr ready)
    obtain rfl : f = f' := by simpa [refusal, refusal', eq_comm] using granted
    exact ⟨[.fail f], [], (noted.trans (makes_announce makes)).historySince,
      (noted'.trans (makes_announce makes')).historySince, Nat.le_refl 1,
      fun had => absurd had ready, fun _ => rfl, endsAlike_of_refusal result result'⟩

/-- On services with the same prospects, opening a channel for a blob and opening one through a
signed address proceed alike. -/
theorem openAlike (blob : Blob) (session : SessionOptions) (url : String) (requested : Value)
    (same : s.SameProspects o t) : OpenAlike o blob session url requested s t := by
  obtain ⟨settled, events, eq, eq'⟩ := settleChunkSize_congr requested same.environment
  have noted : s.Makes [] (s.noteAll events) := (Service.Makes.refl s).of_record rfl (.refl s)
  have noted' : t.Makes [] (t.noteAll events) := (Service.Makes.refl t).of_record rfl (.refl t)
  refine ⟨session.carried_wireParameters, ?unsettled, ?unnamed, ?asked⟩
  case unsettled =>
    intro problem rejected
    rw [eq] at rejected
    obtain rfl : settled = .error problem := rejected
    rw [openBlob, openSigned_eq, eq, eq']
    exact ⟨rfl, rfl, noted.historySince, noted'.historySince⟩
  case unnamed =>
    intro chunkSize fault accepted unnamed
    rw [eq] at accepted
    obtain rfl : settled = .ok chunkSize := accepted
    rw [openSigned_eq, eq', unnamed]
    exact ⟨addressFailure fault, rfl, rfl, noted'.historySince⟩
  case asked =>
    intro chunkSize target accepted named
    rw [eq] at accepted
    obtain rfl : settled = .ok chunkSize := accepted
    rw [openBlob, openSigned_eq, eq, eq', named]
    exact askAlike_announce same events blob target chunkSize session.wireParameters url _ _ _ _

/-- A connection is reset, and then a session is granted: both ways to open a channel make the same
three calls, save for what they ask for. -/
theorem openAlike_reset :
    ∃ (o : ServiceOptions) (blob : Blob) (session : SessionOptions) (reset : Failure)
      (s t : Service),
      o = ⟨0, none, "main"⟩ ∧ blob = ⟨"b", "n", none, none⟩ ∧ session.ifGenerationMatch = some 0 ∧
      reset = .ofFault (.external (.raise (.system .connectionReset) [.text "r"] none)) ∧
      s.SameProspects o t ∧ s.historySince (openBlob o blob session .null s).2 =
        [(⟨o, .handle⟩, .accept none),
          (⟨o, .session blob [("ifGenerationMatch", .int 0)]⟩, .fail reset),
          (⟨o, .session blob [("ifGenerationMatch", .int 0)]⟩, .accept (some "token"))] ∧
      AskAlike o s t .default ("open upload session for " ++ blob.id)
        ("open upload session from signed URL for " ++ blob.id)
        (.session blob session.wireParameters) (.signedSession "https://h/b/n")
        (openBlob o blob session .null s) (openSigned o "https://h/b/n" .null t) := by
  obtain ⟨reset, reset_eq⟩ : ∃ reset : Failure,
      reset = .ofFault (.external (.raise (.system .connectionReset) [.text "r"] none)) :=
    ⟨_, rfl⟩
  obtain ⟨s, s_eq⟩ : ∃ s : Service, s =
      { endpoints := fun _ => { sessionScript := [.fail reset, .accept (some "token")] } } :=
    ⟨_, rfl⟩
  obtain ⟨t, t_eq⟩ : ∃ t : Service, t =
      { endpoints := fun _ => { signedScript := [.fail reset, .accept (some "token")] } } :=
    ⟨_, rfl⟩
  have same : s.SameProspects ⟨0, none, "main"⟩ t := by
    rw [s_eq, t_eq]
    exact ⟨rfl, Iff.rfl, rfl, rfl⟩
  have settled : (settleChunkSize .null s).1 = .ok .default := by
    rw [s_eq]
    rfl
  have alike := openAlike ⟨"b", "n", none, none⟩ { ifGenerationMatch := some 0 } "https://h/b/n"
    .null same
  refine ⟨_, _, _, reset, s, t, rfl, rfl, rfl, reset_eq, same, ?_, alike.asked _ _ settled rfl⟩
  rw [s_eq, reset_eq]
  rfl

/-- A handle is refused: then neither way to open a channel asks for a session, although the chunk
size is good and the address names a blob. And an address that names no blob goes unnoticed when the
configured chunk size is bad. -/
theorem openAlike_refused :
    ∃ (o : ServiceOptions) (blob : Blob) (broken : Failure) (s t : Service) (report : Report),
      s.SameProspects o s ∧ (settleChunkSize (.int chunkUnit) s).1.isOk = true ∧
      SignedUrl.blob "https://h/b/n" = .ok blob ∧
      s.historySince (openBlob o blob {} (.int chunkUnit) s).2 = [(⟨o, .handle⟩, .fail broken)] ∧
      s.historySince (openSigned o "https://h/b/n" (.int chunkUnit) s).2 =
        [(⟨o, .handle⟩, .fail broken)] ∧
      (SignedUrl.blob "https://h/").isOk = false ∧
      (openSigned o "https://h/" .null t).1 = .error (.invalid report) := by
  obtain ⟨broken, broken_eq⟩ : ∃ broken : Failure,
      broken = .ofFault (.external (.raise (.other "RuntimeError") [.text "x"] none)) := ⟨_, rfl⟩
  obtain ⟨s, s_eq⟩ : ∃ s : Service,
      s = { endpoints := fun _ => { handleScript := [.fail broken] } } := ⟨_, rfl⟩
  refine ⟨⟨0, none, "main"⟩, ⟨"b", "n", none, none⟩, broken, s,
    { environment := { chunkSize := some "1" } }, _, ⟨rfl, Iff.rfl, rfl, ?_⟩, ?_, rfl, ?_, ?_, rfl,
    rfl⟩
  all_goals
    subst s_eq
    rfl

end Channel

end ResumableUpload
