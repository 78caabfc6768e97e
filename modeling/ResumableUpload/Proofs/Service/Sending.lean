import ResumableUpload.Service.History

/-!
# What requests add to the history of a service

A request adds calls at the end of the record and takes their outcomes off the scripts of the
endpoints. `Service.Sends` says of two states of a service which chunks were sent between them; it
composes along a run, and it determines `Service.deliveriesSince`.

## Main results

* `Service.Sends.trans` — what is sent in two parts of a run is sent one after the other.
* `Service.Sends.deliveriesSince` — the chunks sent are those of the history.
* `Service.sends_ask`, `Service.sends_requestHandle` — what the requests of a channel send.
-/

namespace ResumableUpload.Service

/-! ### Rows of calls -/

/-- The outcome of a request depends on the endpoints only. -/
theorem ask_fst_congr {s t : Service} (h : s.endpoints = t.endpoints) (o : ServiceOptions)
    (request : Request) : (ask o request s).1 = (ask o request t).1 := by
  simp only [ask, h]

/-- What a request does to the endpoints depends on the endpoints only. -/
theorem endpoints_ask_congr {s t : Service} (h : s.endpoints = t.endpoints) (o : ServiceOptions)
    (request : Request) : (ask o request s).2.endpoints = (ask o request t).2.endpoints := by
  simp only [ask, setEndpoint, h]

/-- The outcomes of a row of calls depend on the endpoints only. -/
theorem exchanges_congr {s t : Service} (h : s.endpoints = t.endpoints) (calls : List Call) :
    s.exchanges calls = t.exchanges calls := by
  induction calls generalizing s t with
  | nil => rfl
  | cons call calls ih =>
    simp only [exchanges]
    rw [ask_fst_congr h, ih (endpoints_ask_congr h call.options call.request)]

/-- What a row of calls does to the endpoints depends on the endpoints only. -/
theorem endpoints_afterCalls_congr {s t : Service} (h : s.endpoints = t.endpoints)
    (calls : List Call) : (s.afterCalls calls).endpoints = (t.afterCalls calls).endpoints := by
  induction calls generalizing s t with
  | nil => exact h
  | cons call calls ih => exact ih (endpoints_ask_congr h call.options call.request)

/-- Calls made in two parts are answered one part after the other. -/
theorem exchanges_append (s : Service) (first second : List Call) :
    s.exchanges (first ++ second) = s.exchanges first ++ (s.afterCalls first).exchanges second := by
  induction first generalizing s with
  | nil => rfl
  | cons call first ih => simp only [List.cons_append, exchanges, afterCalls, ih]

/-- Calls made in two parts are made one part after the other. -/
theorem afterCalls_append (s : Service) (first second : List Call) :
    s.afterCalls (first ++ second) = (s.afterCalls first).afterCalls second := by
  induction first generalizing s with
  | nil => rfl
  | cons call first ih => exact ih _

/-! ### Sending -/

/-- Between the two states exactly these chunks are sent, in this order. -/
def Sends (s : Service) (sent : List Delivery) (s' : Service) : Prop :=
  ∃ calls : List Call, s'.calls = s.calls ++ calls ∧
    s'.endpoints = (s.afterCalls calls).endpoints ∧
    (s.exchanges calls).filterMap Delivery.ofExchange? = sent

/-- Where no call is made no chunk is sent. -/
theorem Sends.of_eq {s s' : Service} (calls : s'.calls = s.calls)
    (endpoints : s'.endpoints = s.endpoints) : s.Sends [] s' :=
  ⟨[], by rw [calls, List.append_nil], endpoints, rfl⟩

/-- Between a state and itself no chunk is sent. -/
theorem Sends.refl (s : Service) : s.Sends [] s := .of_eq rfl rfl

/-- What is sent in two parts of a run is sent one after the other. -/
theorem Sends.trans {s₁ s₂ s₃ : Service} {first second : List Delivery} (h₁ : s₁.Sends first s₂)
    (h₂ : s₂.Sends second s₃) : s₁.Sends (first ++ second) s₃ := by
  obtain ⟨calls₁, record₁, endpoints₁, rfl⟩ := h₁
  obtain ⟨calls₂, record₂, endpoints₂, rfl⟩ := h₂
  refine ⟨calls₁ ++ calls₂, ?_, ?_, ?_⟩
  · rw [record₂, record₁, List.append_assoc]
  · rw [endpoints₂, afterCalls_append, endpoints_afterCalls_congr endpoints₁]
  · rw [exchanges_append, List.filterMap_append, exchanges_congr endpoints₁]

/-- Events are no calls. -/
theorem Sends.note {s s' : Service} {sent : List Delivery} (h : s.Sends sent s') (e : Event) :
    s.Sends sent (s'.note e) := by
  obtain ⟨calls, record, endpoints, rfl⟩ := h
  exact ⟨calls, record, endpoints, rfl⟩

/-- Several events are no calls either. -/
theorem Sends.noteAll {s s' : Service} {sent : List Delivery} (h : s.Sends sent s')
    (es : List Event) : s.Sends sent (s'.noteAll es) := by
  obtain ⟨calls, record, endpoints, rfl⟩ := h
  exact ⟨calls, record, endpoints, rfl⟩

/-- The chunks sent between two states are those of the history between them. -/
theorem Sends.deliveriesSince {s s' : Service} {sent : List Delivery} (h : s.Sends sent s') :
    s.deliveriesSince s' = sent := by
  obtain ⟨calls, record, -, rfl⟩ := h
  rw [Service.deliveriesSince, historySince, record, List.drop_left]

/-- Only one row of chunks is sent between two states. -/
theorem Sends.unique {s s' : Service} {sent sent' : List Delivery} (h : s.Sends sent s')
    (h' : s.Sends sent' s') : sent = sent' :=
  h.deliveriesSince.symm.trans h'.deliveriesSince

/-! ### The requests of a channel -/

/-- Asking sends at most the chunk of an upload. -/
theorem sends_ask (o : ServiceOptions) (request : Request) (s : Service) :
    s.Sends ([((⟨o, request⟩ : Call), (ask o request s).1)].filterMap Delivery.ofExchange?)
      (ask o request s).2 :=
  ⟨[⟨o, request⟩], rfl, rfl, rfl⟩

/-- A request for a handle sends no chunk. -/
theorem sends_requestHandle (o : ServiceOptions) (s : Service) :
    s.Sends [] (requestHandle o s).2 := by
  rw [requestHandle]
  split
  · exact .refl s
  · have noted := (Sends.refl s).note (.creatingHandle o.projectId)
    have asked := noted.trans (sends_ask o .handle (s.note (.creatingHandle o.projectId)))
    split
    next outcome s' eq =>
      rw [eq] at asked
      obtain ⟨calls, record, endpoints, sent⟩ := asked
      exact ⟨calls, record, endpoints, sent⟩
    next outcome s' eq =>
      rw [eq] at asked
      exact asked

/-- An upload ends as the endpoint says. -/
theorem upload_eq (o : ServiceOptions) (t : Transmission) (s : Service) :
    upload o t s = ((ask o (.upload t) s).1.toExcept, (ask o (.upload t) s).2) := by
  rw [upload]
  cases ask o (.upload t) s with
  | mk outcome s' => cases outcome <;> rfl

end ResumableUpload.Service
