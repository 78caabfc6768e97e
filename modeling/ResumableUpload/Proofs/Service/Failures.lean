import ResumableUpload.Proofs.Service.Sending

/-!
# Failures to come

The scripts of an endpoint are rows of outcomes that are used up one by one, and when a script is
used up everything is accepted. So only so many failures can still meet a channel. No request adds
to their number, and one that fails takes one away: whoever asks again and again is accepted at
last.

## Main definitions

* `Service.failuresAhead` — how many failures can still meet a channel.

## Main results

* `Service.failuresAhead_le_of_sends` — no request adds a failure.
* `Service.failuresAhead_lt_of_requestHandle`, `Service.failuresAhead_lt_of_upload` — a request that
  fails takes one away.
-/

namespace ResumableUpload

/-- The number of failures in a script. -/
def failureCount (script : List Outcome) : Nat := script.countP fun outcome => !outcome.isAccept

/-- Using up an outcome adds no failure. -/
theorem failureCount_next_le (script : List Outcome) :
    failureCount (Endpoint.next script).2 ≤ failureCount script := by
  cases script with
  | nil => exact Nat.le_refl _
  | cons outcome rest =>
    have split := List.countP_cons (p := fun o : Outcome => !o.isAccept) (a := outcome) (l := rest)
    simp only [failureCount, Endpoint.next]
    omega

/-- Using up a failure takes it away. -/
theorem failureCount_next_lt {script : List Outcome} {f : Failure}
    (failed : (Endpoint.next script).1 = .fail f) :
    failureCount (Endpoint.next script).2 < failureCount script := by
  cases script with
  | nil => contradiction
  | cons outcome rest =>
    obtain rfl : outcome = .fail f := failed
    have counted : failureCount (.fail f :: rest) = failureCount rest + 1 :=
      List.countP_cons_of_pos rfl
    simp only [Endpoint.next, counted]
    omega

namespace Service

variable {o : ServiceOptions} {s s' : Service}

/-- The failures that a channel with these options can still meet: those of handles, and those of
chunks. -/
def failuresAhead (o : ServiceOptions) (s : Service) : Nat :=
  failureCount (s.endpoints o.endpoint).handleScript +
    failureCount (s.endpoints o.endpoint).uploadScript

/-- A request adds no failure, whichever endpoint it goes to. -/
theorem failuresAhead_ask_le (o o' : ServiceOptions) (request : Request) (s : Service) :
    (ask o' request s).2.failuresAhead o ≤ s.failuresAhead o := by
  have handles := failureCount_next_le (s.endpoints o'.endpoint).handleScript
  have uploads := failureCount_next_le (s.endpoints o'.endpoint).uploadScript
  by_cases same : o.endpoint = o'.endpoint
  · cases request with
    | handle =>
      simp only [failuresAhead, ask, setEndpoint, Endpoint.answer, same, if_true]
      omega
    | upload t =>
      simp only [failuresAhead, ask, setEndpoint, Endpoint.answer, same, if_true]
      omega
    | session blob parameters => simp [failuresAhead, ask, setEndpoint, Endpoint.answer, same]
    | signedSession url => simp [failuresAhead, ask, setEndpoint, Endpoint.answer, same]
  · simp [failuresAhead, ask, setEndpoint, same]

/-- Where chunks are sent no failure is added. -/
theorem failuresAhead_le_of_sends {sent : List Delivery} (sends : s.Sends sent s') :
    s'.failuresAhead o ≤ s.failuresAhead o := by
  obtain ⟨calls, -, endpoints, -⟩ := sends
  have after : s'.failuresAhead o = (s.afterCalls calls).failuresAhead o := by
    simp only [failuresAhead, endpoints]
  rw [after]
  clear after endpoints
  induction calls generalizing s with
  | nil => exact Nat.le_refl _
  | cons call calls ih =>
    exact Nat.le_trans (ih (s := (ask call.options call.request s).2))
      (failuresAhead_ask_le o call.options call.request s)

/-- A handle that cannot be had takes a failure away. -/
theorem failuresAhead_lt_of_requestHandle {f : Failure}
    (failed : requestHandle o s = (.error f, s')) : s'.failuresAhead o < s.failuresAhead o := by
  rw [requestHandle] at failed
  split at failed
  · simp at failed
  · split at failed
    · simp at failed
    next g t asked =>
      simp only [Prod.mk.injEq] at failed
      obtain ⟨-, rfl⟩ := failed
      have outcome : (Endpoint.next (s.endpoints o.endpoint).handleScript).1 = .fail g :=
        congrArg Prod.fst asked
      have fewer := failureCount_next_lt outcome
      obtain rfl : (ask o .handle (s.note (.creatingHandle o.projectId))).2 = t :=
        congrArg Prod.snd asked
      simp only [failuresAhead, ask, note, setEndpoint, Endpoint.answer, if_true]
      omega

/-- A chunk that is rejected takes a failure away. -/
theorem failuresAhead_lt_of_upload {t : Transmission} {f : Failure}
    (failed : upload o t s = (.error f, s')) : s'.failuresAhead o < s.failuresAhead o := by
  rw [upload_eq, Prod.mk.injEq] at failed
  obtain ⟨rejected, rfl⟩ := failed
  cases outcome : (ask o (.upload t) s).1 with
  | accept reply =>
    rw [outcome] at rejected
    contradiction
  | fail g =>
    have fewer : failureCount (Endpoint.next (s.endpoints o.endpoint).uploadScript).2 < _ :=
      failureCount_next_lt outcome
    simp only [failuresAhead, ask, setEndpoint, Endpoint.answer, if_true]
    omega

end Service

end ResumableUpload
