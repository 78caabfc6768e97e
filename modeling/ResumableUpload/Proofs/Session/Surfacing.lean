import ResumableUpload.Proofs.Session.Opening
import ResumableUpload.Session.Surfacing

/-!
# Which failures to open a channel surface

A bad address and a rejected call for a session surface as a storage failure. A refused handle does
not: it is asked for outside of the attempts, so that its failure is passed on as it is.

## Main results

* `Failure.surfaces_causing`, `Retry.surfaces_surface_iff` — wrapped failures.
* `Channel.connect_eq_error` — why there is no session.
* `Origin.FailsBy.unique` — there is only one original failure.
* `Origin.failure_surfaces_iff` — which failures surface.
-/

namespace ResumableUpload

/-! ### Wrapped failures -/

/-- A storage fault always says something. -/
theorem StorageFault.message_plain_ne (kind : StorageKind) (message : String) :
    (plain kind message).message ≠ "" := by
  rw [StorageFault.message, plain, raise]
  split
  · exact (by decide : defaultMessage ≠ "")
  next said =>
    intro empty
    apply said
    have eq : message = "" := empty
    rw [eq]
    rfl

/-- A failure surfaces as the storage failure that it causes. -/
theorem Failure.surfaces_causing (f : Failure) (message : String) :
    (f.causing message).Surfaces f :=
  ⟨rfl, .inr ⟨StorageFault.message_plain_ne .general message, rfl⟩⟩

/-- A failure surfaces from the attempts unless it is a request to stop, which is passed on as it
is. -/
theorem Retry.surfaces_surface_iff (description : String) (f : Failure) :
    ((surface description f).Surfaces f ↔ f.fault.isOrdinary = true) ∧
      (f.fault.isOrdinary = false → surface description f = f) := by
  rw [surface]
  split
  next ordinary =>
    refine ⟨iff_of_true ?_ ordinary, fun stop => absurd ordinary (by rw [stop]; simp)⟩
    rw [Failure.wrap]
    split
    next storage => exact ⟨storage, .inl rfl⟩
    · exact f.surfaces_causing _
  next stop =>
    exact ⟨iff_of_false (fun surfaces => stop (Fault.isOrdinary_of_isStorage surfaces.1)) stop,
      fun _ => rfl⟩

namespace Channel

variable {description : String} {g : Failure} {options : ServiceOptions} {request : Request}
  {s s' : Service}

/-! ### Sessions that are not had -/

/-- Attempts that fail end with a call that is rejected, and its failure comes out. -/
theorem attempt_eq_error {left : Nat}
    (h : Retry.attempt Service.note description (Service.askSession options request) left s =
      (.error g, s')) :
    ∃ earlier f, s.Makes (earlier ++ [(⟨options, request⟩, .fail f)]) s' ∧
      g = Retry.surface description f := by
  obtain ⟨last, ending, makes, -, answer⟩ :=
    Retry.attempt_askSession options request description left s
  rw [h] at makes answer
  cases last with
  | accept reply => contradiction
  | fail f =>
    obtain ⟨earlier, eq⟩ := List.getLast?_eq_some_iff.mp ending
    rw [eq, List.map_append] at makes
    exact ⟨_, f, makes, Except.error.inj answer⟩

/-- Why there is no session: the handle is refused, and this failure is the answer; or the last call
for the session is rejected, and its failure comes out. -/
theorem connect_eq_error
    (h : connect options description (Service.askSession options request) s = (.error g, s')) :
    s.Makes [(⟨options, .handle⟩, .fail g)] s' ∨
      ∃ earlier f, s.Makes (earlier ++ [(⟨options, request⟩, .fail f)]) s' ∧
        g = Retry.surface description f := by
  rw [connect] at h
  obtain ⟨-, eq⟩ | ⟨-, f, s₁, eq, makes, -⟩ | ⟨-, reply, s₁, eq, makes, -⟩ :=
    Service.requestHandle_cases options s
  · rw [eq] at h
    exact .inr (attempt_eq_error h)
  · simp only [eq, Prod.mk.injEq, Except.error.injEq] at h
    obtain ⟨rfl, rfl⟩ := h
    exact .inl makes
  · rw [eq] at h
    obtain ⟨earlier, f, later, failed⟩ := attempt_eq_error h
    exact .inr ⟨(⟨options, .handle⟩, .accept reply) :: earlier, f, makes.trans later, failed⟩

/-- A channel is not announced because there is no session. -/
theorem announce_eq_error {blob : Blob} {chunkSize : ChunkSize} {event : String → String → Event}
    {opened : Except Failure String × Service} {problem : Problem}
    (h : announce options blob chunkSize event opened = (.error problem, s')) :
    ∃ f, problem = .failure f ∧ opened = (.error f, s') := by
  obtain ⟨result, s₁⟩ := opened
  cases result with
  | error f =>
    simp only [announce, Prod.mk.injEq, Except.error.injEq] at h
    obtain ⟨rfl, rfl⟩ := h
    exact ⟨f, rfl, rfl⟩
  | ok uploadId => simp [announce] at h

end Channel

namespace Origin

variable {f original : Failure} {history : List (Call × Outcome)} {origin : Origin}

/-! ### Channels that are not opened -/

/-- What a failed attempt to open a channel fails by is its last call, or else its address. -/
theorem FailsBy.cases_last (h : origin.FailsBy history f) :
    (history.getLast? = none ∧ ∃ fault, origin.addressFault? = some fault ∧
        f = .invalidValue fault.message) ∨
      ∃ call, history.getLast? = some (call, .fail f) := by
  cases h with
  | address bad => exact .inl ⟨rfl, _, bad, rfl⟩
  | refused => exact .inr ⟨_, rfl⟩
  | rejected asked =>
    exact .inr ⟨_, by rw [List.getLast?_append, List.getLast?_singleton, Option.some_or]⟩

/-- There is only one original failure. -/
theorem FailsBy.unique (h : origin.FailsBy history f) (h' : origin.FailsBy history original) :
    f = original := by
  obtain ⟨none, fault, bad, rfl⟩ | ⟨call, last⟩ := h.cases_last <;>
    obtain ⟨none', fault', bad', rfl⟩ | ⟨call', last'⟩ := h'.cases_last
  · rw [Option.some.inj (bad.symm.trans bad')]
  · simp [none] at last'
  · simp [none'] at last
  · simpa using congrArg (Option.map Prod.snd) (last.symm.trans last')

/-- The failure of a bad address surfaces. -/
theorem comesOut_address {fault : SignedUrl.Fault} (bad : origin.addressFault? = some fault) :
    origin.ComesOut [] (Channel.addressFailure fault) (.invalidValue fault.message) where
  fails := .address bad
  surfaces_iff := iff_of_true (Failure.surfaces_causing _ _) (.inr ⟨rfl, by simp⟩)
  eq_of_refused := by simp
  eq_of_stop stop := absurd stop (by decide : true ≠ false)

/-- The refusal of a handle is passed on. -/
theorem comesOut_refused (f : Failure) :
    origin.ComesOut [(⟨origin.options, .handle⟩, .fail f)] f f where
  fails := .refused
  surfaces_iff := by simp [Failure.Surfaces]
  eq_of_refused _ := rfl
  eq_of_stop _ := rfl

/-- A call for a session is no call for a handle. -/
theorem not_handle_of_session {call : Call} (asked : origin.session? = some call) :
    call.request ≠ .handle := by
  cases origin with
  | opened options blob session requested =>
    obtain rfl := Option.some.inj asked
    simp
  | openedSigned options url requested =>
    obtain rfl := Option.some.inj asked
    simp
  | _ => contradiction

/-- A history that ends with a call for a session is no refusal of a handle. -/
theorem append_ne_refusal {call : Call} (asked : origin.session? = some call)
    (earlier : List (Call × Outcome)) (outcome : Outcome) (o : ServiceOptions) (f : Failure) :
    earlier ++ [(call, outcome)] ≠ [(⟨o, .handle⟩, .fail f)] := by
  intro eq
  have last := congrArg List.getLast? eq
  rw [List.getLast?_append, List.getLast?_singleton, List.getLast?_singleton, Option.some_or,
    Option.some.injEq, Prod.mk.injEq] at last
  exact not_handle_of_session asked (by rw [last.1])

/-- What comes out of the attempts to get a session surfaces. -/
theorem comesOut_rejected {call : Call} (asked : origin.session? = some call)
    (description : String) (earlier : List (Call × Outcome)) (f : Failure) :
    origin.ComesOut (earlier ++ [(call, .fail f)]) (Retry.surface description f) f := by
  have other := append_ne_refusal asked earlier (.fail f) origin.options f
  obtain ⟨surfaces_iff, passed⟩ := Retry.surfaces_surface_iff description f
  refine ⟨.rejected asked, ?_, fun eq => absurd eq other, passed⟩
  rw [surfaces_iff]
  constructor
  · exact fun ordinary => .inr ⟨ordinary, other⟩
  · rintro (storage | ⟨ordinary, -⟩)
    · exact Fault.isOrdinary_of_isStorage storage
    · exact ordinary

/-- Connecting fails with the refusal of a handle, or with what comes out of the attempts. -/
theorem comesOut_connect (origin : Origin) {options : ServiceOptions} {request : Request}
    (own : origin.options = options) (asked : origin.session? = some ⟨options, request⟩)
    {description : String} {s s₁ s' : Service} (before : s.Makes [] s₁)
    (h : Channel.connect options description (Service.askSession options request) s₁ =
      (.error f, s')) :
    ∃ original, origin.ComesOut (s.historySince s') f original := by
  obtain makes | ⟨earlier, original, makes, rfl⟩ := Channel.connect_eq_error h
  · rw [(before.trans makes).historySince, ← own]
    exact ⟨f, comesOut_refused f⟩
  · rw [(before.trans makes).historySince]
    exact ⟨original, comesOut_rejected asked description earlier original⟩

section Machine

variable [Memory]

/-- Once the chunk size is settled, whatever keeps a channel from being opened surfaces as a storage
failure that is the original one or names it as its cause, with one exception: the refusal of a
handle is passed on as it is, and that is a storage failure only if it was one. (A request to stop
is passed on, too.) -/
theorem failure_surfaces_iff {s s' : Service} {problem : Problem} (settles : origin.Settles s)
    (h : origin.create s = (.error problem, s')) :
    ∃ f original, problem = .failure f ∧ origin.ComesOut (s.historySince s') f original := by
  -- Settling the chunk size succeeds and asks for nothing.
  have settled : ∀ requested, (Channel.settleChunkSize requested s).1.isOk = true →
      ∃ chunkSize s₁, Channel.settleChunkSize requested s = (.ok chunkSize, s₁) ∧
        s.Makes [] s₁ := by
    intro requested ok
    rcases eq : Channel.settleChunkSize requested s with ⟨result, s₁⟩
    have makes := (Channel.asks_settleChunkSize eq origin.options fun _ => False).makes
    rw [eq] at ok
    cases result with
    | error problem => contradiction
    | ok chunkSize => exact ⟨chunkSize, s₁, rfl, makes⟩
  cases origin with
  | made => contradiction
  | restored => contradiction
  | opened options blob session requested =>
    obtain ⟨chunkSize, s₁, eq, makes⟩ := settled requested settles
    change Channel.openBlob options blob session requested s = (.error problem, s') at h
    rw [Channel.openBlob, eq] at h
    obtain ⟨f, rfl, failed⟩ := Channel.announce_eq_error h
    obtain ⟨original, out⟩ :=
      comesOut_connect (.opened options blob session requested) rfl rfl makes failed
    exact ⟨f, original, rfl, out⟩
  | openedSigned options url requested =>
    obtain ⟨chunkSize, s₁, eq, makes⟩ := settled requested settles
    change Channel.openSigned options url requested s = (.error problem, s') at h
    simp only [Channel.openSigned_eq, eq] at h
    split at h
    next fault bad =>
      simp only [Prod.mk.injEq, Except.error.injEq] at h
      obtain ⟨rfl, rfl⟩ := h
      rw [makes.historySince]
      exact ⟨_, _, rfl, comesOut_address (by simp [addressFault?, bad])⟩
    next blob named =>
      obtain ⟨f, rfl, failed⟩ := Channel.announce_eq_error h
      obtain ⟨original, out⟩ :=
        comesOut_connect (.openedSigned options url requested) rfl rfl makes failed
      exact ⟨f, original, rfl, out⟩

end Machine

/-- The first call for a session fails for a transient reason and the second one for another, which
surfaces. -/
theorem failure_surfaces_iff_repeated :
    ∃ (reset broken f : Failure) (s s' : Service) (origin : Origin),
      reset = .ofFault (.external (.raise (.system .connectionReset) [.text "reset"] none)) ∧
      broken = .ofFault (.external (.raise (.other "RuntimeError") [.text "x"] none)) ∧
      s = ({} : Service).setEndpoint "east" { sessionScript := [.fail reset, .fail broken] } ∧
      origin = .opened ⟨0, none, "east"⟩ ⟨"b", "n", none, none⟩ {} (.int 262144) ∧
      origin.create s = (.error (.failure f), s') ∧ f.Surfaces broken := by
  obtain ⟨reset, reset_eq⟩ : ∃ reset : Failure,
      reset = .ofFault (.external (.raise (.system .connectionReset) [.text "reset"] none)) :=
    ⟨_, rfl⟩
  obtain ⟨broken, broken_eq⟩ : ∃ broken : Failure,
      broken = .ofFault (.external (.raise (.other "RuntimeError") [.text "x"] none)) := ⟨_, rfl⟩
  obtain ⟨s, s_eq⟩ : ∃ s, s = ({} : Service).setEndpoint "east"
      { sessionScript := [.fail reset, .fail broken] } := ⟨_, rfl⟩
  obtain ⟨origin, origin_eq⟩ : ∃ origin, origin =
      Origin.opened ⟨0, none, "east"⟩ ⟨"b", "n", none, none⟩ {} (.int 262144) := ⟨_, rfl⟩
  obtain ⟨problem, s', call, earlier, created, asked, history⟩ : ∃ problem s' call earlier,
      origin.create s = (.error problem, s') ∧ origin.session? = some call ∧
        s.historySince s' = earlier ++ [(call, .fail broken)] := by
    subst reset_eq broken_eq s_eq origin_eq
    exact ⟨_, _, _, [_, _], rfl, rfl, rfl⟩
  have settles : origin.Settles s := by
    rw [origin_eq, s_eq]
    rfl
  obtain ⟨f, original, rfl, out⟩ := failure_surfaces_iff settles created
  have fails := out.fails
  rw [history] at fails
  obtain rfl := fails.unique (.rejected asked)
  refine ⟨reset, original, f, s, s', origin, reset_eq, broken_eq, s_eq, origin_eq, created, ?_⟩
  have ordinary : original.fault.isOrdinary = true := by
    rw [broken_eq]
    rfl
  refine out.surfaces_iff.mpr (.inr ⟨ordinary, ?_⟩)
  rw [history]
  exact append_ne_refusal asked earlier _ _ _

/-- A handle is refused, for a reason that is nothing to do with storage: no storage failure
surfaces. -/
theorem failure_surfaces_iff_refused :
    ∃ (broken : Failure) (s' : Service),
      broken = .ofFault (.external (.raise (.other "RuntimeError") [.text "x"] none)) ∧
      (Origin.opened ⟨0, none, "main"⟩ ⟨"b", "n", none, none⟩ {} (.int 262144)).create
          (({} : Service).setEndpoint "main" { handleScript := [.fail broken] }) =
        (.error (.failure broken), s') ∧
      broken.fault.isOrdinary = true ∧ ∀ original, ¬broken.Surfaces original := by
  refine ⟨_, _, rfl, rfl, rfl, ?_⟩
  rintro original ⟨storage, -⟩
  exact absurd storage (by decide : false ≠ true)

end Origin

end ResumableUpload
