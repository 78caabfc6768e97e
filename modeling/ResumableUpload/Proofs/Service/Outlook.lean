import ResumableUpload.Proofs.Service.Sending
import ResumableUpload.Service.Outlook

/-!
# Requests with known outcomes

When a handle can be had, it is had, and the outcomes of chunks are not touched. A service that
accepts everything goes on doing so, and two services in step are in step again after each was sent
the same chunk.

## Main results

* `Service.requestHandle_of_ready` — a handle is had.
* `Service.Accepts.upload` — a chunk is accepted.
* `Service.InStep.upload` — two chunks meet the same outcome.
-/

namespace ResumableUpload.Service

variable {o o' : ServiceOptions} {s s' : Service}

/-- Services are in step with themselves. -/
theorem InStep.refl (ready : s.Ready o) : InStep o s o s := ⟨ready, ready, rfl⟩

/-- Events do not disturb anything. -/
theorem InStep.note (inStep : InStep o s o' s') (e e' : Event) :
    InStep o (s.note e) o' (s'.note e') :=
  ⟨inStep.ready, inStep.ready', inStep.uploads⟩

/-- Several events do not disturb anything either. -/
theorem InStep.noteAll (inStep : InStep o s o' s') (es es' : List Event) :
    InStep o (s.noteAll es) o' (s'.noteAll es') :=
  ⟨inStep.ready, inStep.ready', inStep.uploads⟩

/-- Where a handle exists nothing is done to have one. -/
theorem requestHandle_of_hasHandle (known : s.HasHandle o) : requestHandle o s = (.ok (), s) :=
  if_pos known

/-- After a handle was had it exists. -/
theorem hasHandle_of_requestHandle {s₁ : Service} (h : requestHandle o s = (.ok (), s₁)) :
    s₁.HasHandle o := by
  by_cases known : s.HasHandle o
  · rw [requestHandle_of_hasHandle known, Prod.mk.injEq] at h
    obtain ⟨-, rfl⟩ := h
    exact known
  · rw [requestHandle] at h
    rw [if_neg (by exact known)] at h
    split at h
    · simp only [Prod.mk.injEq, true_and] at h
      subst h
      simp [HasHandle]
    · simp at h

/-- A chunk leaves the handles as they are. -/
theorem HasHandle.ask_upload (known : s.HasHandle o) (t : Transmission) :
    (ask o (.upload t) s).2.HasHandle o := known

/-- Asking for a handle leaves the outcomes of chunks as they are. -/
theorem uploads_ask_handle (o : ServiceOptions) (s : Service) :
    ((ask o .handle s).2.endpoints o.endpoint).uploadScript =
      (s.endpoints o.endpoint).uploadScript := by
  simp [ask, setEndpoint, Endpoint.answer]

/-- When a handle can be had, asking for it succeeds, and the outcomes of chunks stay. -/
theorem requestHandle_of_ready (ready : s.Ready o) :
    ∃ s₁, requestHandle o s = (.ok (), s₁) ∧ s₁.Ready o ∧
      (s₁.endpoints o.endpoint).uploadScript = (s.endpoints o.endpoint).uploadScript := by
  by_cases known : s.HasHandle o
  · exact ⟨s, requestHandle_of_hasHandle known, .inl known, rfl⟩
  · rw [requestHandle]
    rw [if_neg (by exact known)]
    have granted : (ask o .handle (s.note (.creatingHandle o.projectId))).1.isAccept = true :=
      ready.resolve_left known
    have uploads := uploads_ask_handle o (s.note (.creatingHandle o.projectId))
    cases asked : ask o .handle (s.note (.creatingHandle o.projectId)) with
    | mk outcome s₁ =>
      rw [asked] at granted uploads
      cases outcome with
      | accept reply =>
        refine ⟨{ s₁ with handles := o.identity :: s₁.handles }, rfl, .inl ?_, uploads⟩
        simp [HasHandle]
      | fail f => exact absurd granted Bool.false_ne_true

/-- A chunk leaves the handles as they are. -/
theorem Ready.ask_upload (ready : s.Ready o) (t : Transmission) :
    (ask o (.upload t) s).2.Ready o := by
  simpa [Ready, HasHandle, ask, setEndpoint, Endpoint.answer] using ready

/-- A chunk uses up one outcome. -/
theorem uploads_ask_upload (o : ServiceOptions) (t : Transmission) (s : Service) :
    ((ask o (.upload t) s).2.endpoints o.endpoint).uploadScript =
      (Endpoint.next (s.endpoints o.endpoint).uploadScript).2 := by
  simp [ask, setEndpoint, Endpoint.answer]

/-- A chunk is accepted by a service that accepts everything, which goes on doing so. -/
theorem Accepts.upload (accepts : s.Accepts o) (t : Transmission) :
    ∃ s₁, upload o t s = (.ok (), s₁) ∧ s₁.Accepts o := by
  have outcome : (ask o (.upload t) s).1 =
      (Endpoint.next (s.endpoints o.endpoint).uploadScript).1 := rfl
  have rest := uploads_ask_upload o t s
  refine ⟨(ask o (.upload t) s).2, ?_, accepts.ready.ask_upload t, ?_⟩
  · rw [upload_eq, outcome]
    cases script : (s.endpoints o.endpoint).uploadScript with
    | nil => rfl
    | cons first later =>
      have accepted := accepts.uploads first (by rw [script]; exact List.mem_cons_self)
      cases first with
      | accept reply => rfl
      | fail f => exact absurd accepted Bool.false_ne_true
  · rw [rest]
    cases script : (s.endpoints o.endpoint).uploadScript with
    | nil => simp [Endpoint.next]
    | cons first later =>
      intro outcome mem
      exact accepts.uploads outcome (by rw [script]; exact List.mem_cons_of_mem _ mem)

/-- Two chunks meet the same outcome, and afterwards the services are in step again. -/
theorem InStep.upload (inStep : InStep o s o' s') (t : Transmission) :
    ∃ (outcome : Outcome) (s₁ s₁' : Service), upload o t s = (outcome.toExcept, s₁) ∧
      upload o' t s' = (outcome.toExcept, s₁') ∧ InStep o s₁ o' s₁' ∧
      s.Sends [⟨o, t, outcome.isAccept⟩] s₁ ∧ s'.Sends [⟨o', t, outcome.isAccept⟩] s₁' := by
  have same : (ask o' (.upload t) s').1 = (ask o (.upload t) s).1 := by
    change (Endpoint.next _).1 = (Endpoint.next _).1
    rw [inStep.uploads]
  have after : InStep o (ask o (.upload t) s).2 o' (ask o' (.upload t) s').2 := by
    refine ⟨inStep.ready.ask_upload t, inStep.ready'.ask_upload t, ?_⟩
    rw [uploads_ask_upload, uploads_ask_upload, inStep.uploads]
  have sends := sends_ask o (.upload t) s
  have sends' := sends_ask o' (.upload t) s'
  rw [same] at sends'
  refine ⟨(ask o (.upload t) s).1, _, _, upload_eq o t s, ?_, after, sends, sends'⟩
  rw [← same]
  exact upload_eq o' t s'

end ResumableUpload.Service
