import ResumableUpload.Proofs.Service.Outlook
import ResumableUpload.Service.Attempts

/-!
# Attempts that succeed

An obliging endpoint grants every handle and accepts every chunk, and it goes on doing so whatever
it is asked. So all attempts to send chunks to it succeed, and what they add to the record of the
service depends on nothing but whether there was a handle before.

## Main definitions

* `Service.Served` — a row of chunks is sent, and all of them are accepted.

## Main results

* `Service.obliging_ask` — endpoints stay obliging.
* `Service.countP_callsFor`, `Service.mem_handlesFor_iff` — the handles that a row of chunks takes.
* `Service.served_attempt` — attempts at a chunk.
-/

namespace ResumableUpload

/-- An outcome of a script of acceptances, and those that are still to come, are acceptances. -/
theorem Endpoint.next_of_accepts {script : List Outcome}
    (accepts : ∀ outcome ∈ script, outcome.isAccept = true) :
    (next script).1.isAccept = true ∧ ∀ outcome ∈ (next script).2, outcome.isAccept = true := by
  cases script with
  | nil => exact ⟨rfl, accepts⟩
  | cons outcome rest => exact List.forall_mem_cons.mp accepts

/-- An obliging endpoint stays obliging whatever it is asked. -/
theorem Endpoint.Obliging.answer {e : Endpoint} (obliging : e.Obliging) (request : Request) :
    (e.answer request).2.Obliging := by
  cases request with
  | handle => exact ⟨(next_of_accepts obliging.handles).2, obliging.uploads⟩
  | session blob parameters => exact ⟨obliging.handles, obliging.uploads⟩
  | signedSession url => exact ⟨obliging.handles, obliging.uploads⟩
  | upload t => exact ⟨obliging.handles, (next_of_accepts obliging.uploads).2⟩

namespace Service

variable {blob name : String} {o : ServiceOptions} {s s₁ s' : Service} {t : Transmission}
  {ts : List Transmission}

/-- Endpoints stay obliging whatever is asked. -/
theorem obliging_ask (obliging : (s.endpoints name).Obliging) (o : ServiceOptions)
    (request : Request) : ((ask o request s).2.endpoints name).Obliging := by
  by_cases here : name = o.endpoint
  · subst here
    simpa [ask, setEndpoint] using obliging.answer request
  · simpa [ask, setEndpoint, here] using obliging

/-- Where a handle exists only the chunks take a call. -/
theorem callsFor_of_hasHandle (known : s.HasHandle o) (ts : List Transmission) :
    s.callsFor o ts = ts.map fun t => ⟨o, .upload t⟩ := by
  have known : s.handles.contains o.identity = true := known
  rw [callsFor, known, Bool.or_true, if_pos rfl, List.nil_append]

/-- Where a handle exists no other is created. -/
theorem handlesFor_of_hasHandle (known : s.HasHandle o) (ts : List Transmission) :
    s.handlesFor o ts = s.handles := by
  have known : s.handles.contains o.identity = true := known
  rw [handlesFor, known, Bool.or_true, if_pos rfl]

/-- The calls for a row of chunks ask for a handle once, if anything is sent and there is none. -/
theorem countP_callsFor (o : ServiceOptions) (ts : List Transmission) (s : Service) (i : Nat) :
    (s.callsFor o ts).countP (fun call => call.options.identity = i ∧ call.request = .handle) =
      if (ts ≠ [] ∧ o.identity = i) ∧ i ∉ s.handles then 1 else 0 := by
  have chunks : (ts.map fun t => (⟨o, .upload t⟩ : Call)).countP
      (fun call => call.options.identity = i ∧ call.request = .handle) = 0 := by
    rw [List.countP_eq_zero]
    intro call mem
    obtain ⟨t, -, rfl⟩ := List.mem_map.mp mem
    simp
  rw [callsFor, List.countP_append, chunks]
  by_cases own : o.identity = i
  · subst own
    cases ts <;> by_cases known : o.identity ∈ s.handles <;> simp [known]
  · split <;> simp [own]

/-- A handle exists once a row of chunks was sent if it existed before, or something was sent with
its options. -/
theorem mem_handlesFor_iff {i : Nat} :
    i ∈ s.handlesFor o ts ↔ i ∈ s.handles ∨ ts ≠ [] ∧ o.identity = i := by
  rw [handlesFor]
  split
  next idle =>
    have settled : ts = [] ∨ o.identity ∈ s.handles := by simpa using idle
    constructor
    · exact .inl
    · rintro (known | ⟨sent, rfl⟩)
      · exact known
      · exact settled.resolve_left sent
  next due =>
    have sent : ts ≠ [] := by
      rintro rfl
      exact due rfl
    rw [List.mem_cons, or_comm, eq_comm, and_iff_right sent]

/-- A row of chunks is sent, and all of them are accepted. -/
structure Served (o : ServiceOptions) (blob : String) (ts : List Transmission) (s s' : Service) :
    Prop where
  /-- The chunks are sent. -/
  sends : s.Sends (ts.map fun t => ⟨o, t, true⟩) s'
  /-- The calls are those that it takes. -/
  calls : s'.calls = s.calls ++ s.callsFor o ts
  /-- There is a handle if anything was sent. -/
  handles : s'.handles = s.handlesFor o ts
  /-- Every chunk is announced; the creation of a handle may be told, too. -/
  told : ∃ events, s'.events = s.events ++ events ∧ events.filter (!·.isCreatingHandle) =
    ts.map fun t => .sendingChunk blob t.position t.length t.last
  /-- Endpoints stay obliging. -/
  obliging : ∀ name, (s.endpoints name).Obliging → (s'.endpoints name).Obliging

/-- Nothing is sent. -/
theorem Served.refl (o : ServiceOptions) (blob : String) (s : Service) : s.Served o blob [] s where
  sends := .refl s
  calls := by simp [callsFor]
  handles := by simp [handlesFor]
  told := ⟨[], by simp, rfl⟩
  obliging _ obliging := obliging

/-- A handle that does not exist is granted. -/
theorem requestHandle_of_granted (missing : s.handles.contains o.identity = false)
    (granted : (ask o .handle (s.note (.creatingHandle o.projectId))).1.isAccept = true) :
    requestHandle o s = (.ok (),
      { (ask o .handle (s.note (.creatingHandle o.projectId))).2 with
        handles := o.identity :: s.handles }) := by
  have handles : (ask o .handle (s.note (.creatingHandle o.projectId))).2.handles = s.handles := rfl
  rw [requestHandle, if_neg (by rw [missing]; exact Bool.false_ne_true)]
  cases asked : ask o .handle (s.note (.creatingHandle o.projectId)) with
  | mk outcome s₁ =>
    rw [asked] at granted handles
    cases outcome with
    | accept reply => rw [← handles]
    | fail f => exact absurd granted Bool.false_ne_true

/-- A handle of an obliging endpoint is had. -/
theorem requestHandle_of_obliging (obliging : (s.endpoints o.endpoint).Obliging) :
    ∃ s₁, requestHandle o s = (.ok (), s₁) ∧ s₁.HasHandle o ∧ s.Sends [] s₁ ∧
      s₁.calls = s.calls ++ (if s.handles.contains o.identity then [] else [⟨o, .handle⟩]) ∧
      s₁.handles =
        (if s.handles.contains o.identity then s.handles else o.identity :: s.handles) ∧
      s₁.events = s.events ++
        (if s.handles.contains o.identity then [] else [.creatingHandle o.projectId]) ∧
      ∀ name, (s.endpoints name).Obliging → (s₁.endpoints name).Obliging := by
  have sends := sends_requestHandle o s
  cases known : s.handles.contains o.identity with
  | true =>
    refine ⟨s, requestHandle_of_hasHandle known, known, .refl s, ?_⟩
    simp only [if_true, List.append_nil, true_and]
    exact fun _ other => other
  | false =>
    have granted : (ask o .handle (s.note (.creatingHandle o.projectId))).1.isAccept = true :=
      (Endpoint.next_of_accepts obliging.handles).1
    have had := requestHandle_of_granted known granted
    rw [had] at sends
    refine ⟨_, had, hasHandle_of_requestHandle had, sends, rfl, rfl, rfl, ?_⟩
    exact fun _ other => obliging_ask (s := s.note _) other o .handle

/-- A chunk is accepted by an obliging endpoint. -/
theorem upload_of_obliging (obliging : (s.endpoints o.endpoint).Obliging) (t : Transmission) :
    ∃ s₁, upload o t s = (.ok (), s₁) ∧ s.Sends [⟨o, t, true⟩] s₁ ∧
      s₁.calls = s.calls ++ [⟨o, .upload t⟩] ∧ s₁.handles = s.handles ∧ s₁.events = s.events ∧
      ∀ name, (s.endpoints name).Obliging → (s₁.endpoints name).Obliging := by
  have accepted : (ask o (.upload t) s).1.isAccept = true :=
    (Endpoint.next_of_accepts obliging.uploads).1
  have sends := sends_ask o (.upload t) s
  refine ⟨(ask o (.upload t) s).2, ?_, ?_, rfl, rfl, rfl, fun _ other => obliging_ask other o _⟩
  · rw [upload_eq]
    cases outcome : (ask o (.upload t) s).1 with
    | accept reply => rfl
    | fail f => rw [outcome] at accepted; contradiction
  · simpa [Delivery.ofExchange?, accepted] using sends

/-- An attempt at an obliging endpoint succeeds. -/
theorem served_attempt (obliging : (s.endpoints o.endpoint).Obliging) (blob : String)
    (t : Transmission) :
    ∃ s₁, attempt o blob t s = (.ok (), s₁) ∧ s₁.HasHandle o ∧ s.Served o blob [t] s₁ := by
  have noted : ((s.note (.sendingChunk blob t.position t.length t.last)).endpoints
    o.endpoint).Obliging := obliging
  obtain ⟨s₁, had, known, asks, calls, handles, events, kept⟩ := requestHandle_of_obliging noted
  obtain ⟨s₂, uploaded, sends, calls', handles', events', kept'⟩ :=
    upload_of_obliging (kept _ noted) t
  refine ⟨s₂, ?_, ?_, ?_, ?_, ?_, ?_, ?_⟩
  · rw [attempt, had]
    exact uploaded
  · rw [HasHandle, handles']
    exact known
  · exact (((Sends.refl s).note _).trans asks).trans sends
  · rw [calls', calls, List.append_assoc]
    rfl
  · rw [handles', handles]
    rfl
  · refine ⟨_, (events'.trans events).trans (List.append_assoc _ _ _), ?_⟩
    split <;> rfl
  · exact fun name other => kept' name (kept name other)

/-- Behind the first chunk there is a handle, and each further chunk takes one call. -/
theorem Served.cons (known : s₁.HasHandle o) (first : s.Served o blob [t] s₁)
    (rest : s₁.Served o blob ts s') : s.Served o blob (t :: ts) s' where
  sends := first.sends.trans rest.sends
  calls := by
    rw [rest.calls, first.calls, callsFor_of_hasHandle known, List.append_assoc]
    simp only [callsFor, List.isEmpty_cons, List.map_cons, List.map_nil, List.append_assoc,
      List.singleton_append]
  handles := by
    rw [rest.handles, handlesFor_of_hasHandle known, first.handles]
    rfl
  told := by
    obtain ⟨events, recorded, told⟩ := first.told
    obtain ⟨events', recorded', told'⟩ := rest.told
    refine ⟨events ++ events', ?_, ?_⟩
    · rw [recorded', recorded, List.append_assoc]
    · rw [List.filter_append, told, told']
      rfl
  obliging name obliging := rest.obliging name (first.obliging name obliging)

end Service

end ResumableUpload
