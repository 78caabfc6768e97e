import ResumableUpload.Client.Isolation
import ResumableUpload.Proofs.Channel.Steady
import ResumableUpload.Proofs.Client.Handles
import ResumableUpload.Proofs.Session.Restoration

/-!
# Channels do not interfere

As long as endpoints are obliging, each channel of a client fares as if it were alone, whatever is
done to the others in between: its account does not depend on them. What the order of all turns
decides is which of them creates a handle; it is the first one that sends something with the options
in question. Snapshots are kept as they were taken, and they can always be restored.

## Main definitions

* `Turn.Works` — what a turn does to the service.

## Main results

* `Client.step_operate`, `Client.account_step` — a turn comes out the same on another service.
* `Client.works_step`, `Client.taken_step` — what it asks of the service, and which snapshots it
  leaves.
* `Client.account_run`, `Client.handleCalls_run`, `Client.taken_run` — rows of turns.
* `Client.channels_apart` — channels do not interfere.
-/

namespace ResumableUpload

/-- What a turn does to the service: chunks are sent with the options, all of them accepted, and
what it takes to send them is asked for. -/
structure Turn.Works (t : Turn) (o : ServiceOptions) (ts : List Transmission) : Prop where
  /-- The chunks are sent. -/
  sent : t.sent = ts.map fun chunk => ⟨o, chunk, true⟩
  /-- The calls are those that it takes. -/
  calls : t.after.service.calls = t.before.service.calls ++ t.before.service.callsFor o ts
  /-- There is a handle if anything was sent. -/
  handles : t.after.service.handles = t.before.service.handlesFor o ts
  /-- Endpoints stay obliging. -/
  obliging : ∀ name, (t.before.service.endpoints name).Obliging →
    (t.after.service.endpoints name).Obliging

namespace Client

variable {answer answer' : Except Problem Response} {c c' d d' : Client} {command : Command}
  {n : Nat}

/-! ### Single turns -/

/-- A turn that leaves the service alone. -/
theorem works_of_service_eq (o : ServiceOptions) (service : c'.service = c.service) :
    Turn.Works ⟨command, c, answer, c'⟩ o [] where
  sent := by
    rw [Turn.sent, service]
    exact (Service.Sends.refl _).deliveriesSince
  calls := by simp [service, Service.callsFor]
  handles := by simp [service, Service.handlesFor]
  obliging name obliging := by
    rw [service]
    exact obliging

section Machine

variable [Memory]

/-- What an operation comes to is up to its channel. -/
theorem step_operate (ch : Channel) (n : Nat) (op : Operation) :
    ∃ answer ch' ts events, ch'.options = ch.options ∧
      ∀ c : Client, c.channels[n]? = some ch →
        (c.service.endpoints ch.options.endpoint).Obliging →
        ∃ s', c.service.Served ch.options ch.blob.id ts s' ∧
          (∃ result, ch.perform op c.service = (result, ch', s'.noteAll events)) ∧
          c.step (.operate n op) = (answer,
            { c with channels := c.channels.set n ch', service := s'.noteAll events }) := by
  obtain ⟨result, ch', ts, events, options, acts⟩ := Channel.steady_perform ch op
  refine ⟨(result.map .reply).mapError .failure, ch', ts, events, options,
    fun c kept obliging => ?_⟩
  obtain ⟨s', served, performed⟩ := acts c.service obliging
  refine ⟨s', served, ⟨result, performed⟩, ?_⟩
  simp only [step, withKept, kept, performed]

omit [Memory] in
/-- What a turn that does nothing is to the channel that it is about. -/
theorem account_of_idle (about : command.channel? = some n) (service : c'.service = c.service)
    (channels : c'.channels = c.channels) :
    Turn.account ⟨command, c, answer, c'⟩ = ⟨answer, [], [], c.channels[n]?⟩ := by
  have sent : c.service.deliveriesSince c.service = [] :=
    (Service.Sends.refl c.service).deliveriesSince
  simp only [Turn.account, Turn.sent, Turn.told, service, channels, sent, about,
    Option.bind_some, List.drop_length, List.filter_nil]

omit [Memory] in
/-- What a served operation is to its channel. -/
theorem account_of_served {ch ch' : Channel} {op : Operation} {ts : List Transmission}
    {events : List Event} {s' : Service} (kept : c.channels[n]? = some ch)
    (served : c.service.Served ch.options ch.blob.id ts s') :
    Turn.account ⟨.operate n op, c, answer,
        { c with channels := c.channels.set n ch', service := s'.noteAll events }⟩ =
      ⟨answer, ts.map fun chunk => ⟨ch.options, chunk, true⟩,
        (ts.map fun t => Event.sendingChunk ch.blob.id t.position t.length t.last) ++
          events.filter (!·.isCreatingHandle), some ch'⟩ := by
  have inside : n < c.channels.length := (List.getElem?_eq_some_iff.mp kept).1
  have sent := (served.sends.noteAll events).deliveriesSince
  obtain ⟨more, recorded, told⟩ := served.told
  have told : ((s'.noteAll events).events.drop c.service.events.length).filter
      (!·.isCreatingHandle) =
        (ts.map fun t => Event.sendingChunk ch.blob.id t.position t.length t.last) ++
          events.filter (!·.isCreatingHandle) := by
    rw [Service.noteAll, recorded, List.append_assoc, List.drop_left, List.filter_append, told]
  rw [Turn.account, Turn.sent, sent, Turn.told, told]
  simp only [Command.channel?, Option.bind_some, List.getElem?_set_self inside]

/-- What a client is told when it takes a snapshot of a channel that it may have. -/
def captured (kept : Option Channel) : Except Problem Response :=
  match kept with
  | none => .ok .missing
  | some ch => ((Snapshot.capture ch).map .snapshot).mapError .invalid

/-- Taking a snapshot is nothing to channels and service. -/
theorem step_capture (h : c.step (.capture n) = (answer, c')) :
    answer = captured c.channels[n]? ∧ c'.channels = c.channels ∧ c'.service = c.service ∧
      (c'.snapshots = c.snapshots ∨ ∃ ch snapshot, ch ∈ c.channels ∧
        Snapshot.capture ch = .ok snapshot ∧ c'.snapshots = c.snapshots ++ [snapshot]) := by
  obtain ⟨none, rfl, rfl⟩ | ⟨ch, kept, h⟩ := withKept_cases h
  · rw [none]
    exact ⟨rfl, rfl, rfl, .inl rfl⟩
  · rw [kept, captured]
    cases taken : Snapshot.capture ch with
    | error report =>
      rw [taken] at h
      obtain ⟨rfl, rfl⟩ := Prod.mk.inj h
      exact ⟨rfl, rfl, rfl, .inl rfl⟩
    | ok snapshot =>
      rw [taken] at h
      obtain ⟨rfl, rfl⟩ := Prod.mk.inj h
      exact ⟨rfl, rfl, rfl, .inr ⟨ch, snapshot, List.mem_of_getElem? kept, taken, rfl⟩⟩

/-- A turn that is about a channel comes out the same for another client with the same channel. -/
theorem account_step (obliged : c.Obliged) (obliged' : d.Obliged)
    (same : c.channels[n]? = d.channels[n]?) (about : command.channel? = some n)
    (h : c.step command = (answer, c')) (h' : d.step command = (answer', d')) :
    Turn.account ⟨command, c, answer, c'⟩ = Turn.account ⟨command, d, answer', d'⟩ ∧
      c'.channels[n]? = d'.channels[n]? := by
  cases command with
  | capture m =>
    obtain rfl : m = n := Option.some.inj about
    obtain ⟨told, channels, service, -⟩ := step_capture h
    obtain ⟨told', channels', service', -⟩ := step_capture h'
    rw [account_of_idle about service channels, account_of_idle about service' channels',
      channels, channels', told, told', same]
    exact ⟨rfl, rfl⟩
  | operate m op =>
    obtain rfl : m = n := Option.some.inj about
    cases kept : d.channels[m]? with
    | none =>
      rw [kept] at same
      simp only [step, same, kept, withKept, Prod.mk.injEq] at h h'
      obtain ⟨rfl, rfl⟩ := h
      obtain ⟨rfl, rfl⟩ := h'
      rw [account_of_idle about rfl rfl, account_of_idle about rfl rfl, same, kept]
      exact ⟨rfl, rfl⟩
    | some ch =>
      rw [kept] at same
      obtain ⟨told, ch', ts, events, -, steps⟩ := step_operate ch m op
      obtain ⟨s, served, -, eq⟩ := steps c same (obliged ch (List.mem_of_getElem? same))
      obtain ⟨s', served', -, eq'⟩ := steps d kept (obliged' ch (List.mem_of_getElem? kept))
      rw [eq] at h
      rw [eq'] at h'
      obtain ⟨rfl, rfl⟩ := Prod.mk.inj h
      obtain ⟨rfl, rfl⟩ := Prod.mk.inj h'
      rw [account_of_served same served, account_of_served kept served']
      have inside : m < c.channels.length := (List.getElem?_eq_some_iff.mp same).1
      have inside' : m < d.channels.length := (List.getElem?_eq_some_iff.mp kept).1
      simp only [List.getElem?_set_self inside, List.getElem?_set_self inside', and_self]
  | _ => contradiction

/-- What a turn that is about a channel does: nothing to channels and service, but perhaps a
snapshot is taken; or an operation is served. -/
theorem step_cases (obliged : c.Obliged) (about : command.channel? = some n)
    (h : c.step command = (answer, c')) :
    (c'.channels = c.channels ∧ c'.service = c.service ∧
      (c'.snapshots = c.snapshots ∨ ∃ ch snapshot, ch ∈ c.channels ∧
        Snapshot.capture ch = .ok snapshot ∧ c'.snapshots = c.snapshots ++ [snapshot])) ∨
    ∃ op ch ch' ts events s', command = .operate n op ∧ c.channels[n]? = some ch ∧
      ch'.options = ch.options ∧ (ch.Reachable → ch'.Reachable) ∧
      c.service.Served ch.options ch.blob.id ts s' ∧
      c' = { c with channels := c.channels.set n ch', service := s'.noteAll events } := by
  cases command with
  | capture m =>
    obtain rfl : m = n := Option.some.inj about
    exact .inl (step_capture h).2
  | operate m op =>
    obtain rfl : m = n := Option.some.inj about
    cases kept : c.channels[m]? with
    | none =>
      simp only [step, kept, withKept, Prod.mk.injEq] at h
      obtain ⟨rfl, rfl⟩ := h
      exact .inl ⟨rfl, rfl, .inl rfl⟩
    | some ch =>
      obtain ⟨told, ch', ts, events, options, steps⟩ := step_operate ch m op
      obtain ⟨s', served, ⟨result, performed⟩, eq⟩ :=
        steps c kept (obliged ch (List.mem_of_getElem? kept))
      rw [eq] at h
      obtain ⟨rfl, rfl⟩ := Prod.mk.inj h
      exact .inr ⟨op, ch, ch', ts, events, s', rfl, rfl, options,
        fun reachable => reachable.perform performed, served, rfl⟩
  | _ => contradiction

/-- A turn leaves alone the channels that it is not about. -/
theorem channels_step (obliged : c.Obliged) (about : command.channel? = some n)
    (h : c.step command = (answer, c')) {m : Nat} (other : n ≠ m) :
    c'.channels[m]? = c.channels[m]? := by
  obtain ⟨channels, -⟩ | ⟨op, ch, ch', ts, events, s', -, -, -, -, -, rfl⟩ :=
    step_cases obliged about h
  · rw [channels]
  · exact List.getElem?_set_ne other

/-- A turn leaves the endpoints obliging. -/
theorem obliged_step (obliged : c.Obliged) (about : command.channel? = some n)
    (h : c.step command = (answer, c')) : c'.Obliged := by
  obtain ⟨channels, service, -⟩ | ⟨op, ch, ch', ts, events, s', -, kept, options, -, served, rfl⟩ :=
    step_cases obliged about h
  · intro other mem
    rw [channels] at mem
    rw [service]
    exact obliged other mem
  · intro other mem
    obtain mem | rfl := List.mem_or_eq_of_mem_set mem
    · exact served.obliging _ (obliged other mem)
    · rw [options]
      exact served.obliging _ (obliged ch (List.mem_of_getElem? kept))

/-- A turn asks for what its chunks take, with the options of the channel. -/
theorem works_step (obliged : c.Obliged) (about : command.channel? = some n)
    (h : c.step command = (answer, c')) :
    ∃ o ts, Turn.Works ⟨command, c, answer, c'⟩ o ts ∧
      (ts ≠ [] → Turn.options? ⟨command, c, answer, c'⟩ = some o) := by
  obtain ⟨channels, service, -⟩ | ⟨op, ch, ch', ts, events, s', rfl, kept, -, -, served, rfl⟩ :=
    step_cases obliged about h
  · exact ⟨default, [], works_of_service_eq _ service, by simp⟩
  · refine ⟨ch.options, ts, ⟨?_, served.calls, served.handles, served.obliging⟩, ?_⟩
    · exact (served.sends.noteAll events).deliveriesSince
    · simp [Turn.options?, kept]

/-- A turn takes away no snapshot; it may add one, of a channel that there is. -/
theorem taken_step (obliged : c.Obliged) (reachable : ∀ ch ∈ c.channels, ch.Reachable)
    (about : command.channel? = some n) (h : c.step command = (answer, c')) :
    (∀ ch ∈ c'.channels, ch.Reachable) ∧ ∃ taken, c'.snapshots = c.snapshots ++ taken ∧
      ∀ s ∈ taken, ∃ ch : Channel, ch.Reachable ∧ Snapshot.capture ch = .ok s := by
  obtain ⟨channels, -, snapshots⟩ | ⟨op, ch, ch', ts, events, s', -, kept, -, reached, -, rfl⟩ :=
    step_cases obliged about h
  · rw [channels]
    refine ⟨reachable, ?_⟩
    obtain same | ⟨ch, snapshot, mem, captured, added⟩ := snapshots
    · exact ⟨[], by rw [same, List.append_nil], by simp⟩
    · refine ⟨[snapshot], added, fun s taken => ⟨ch, reachable ch mem, ?_⟩⟩
      rw [List.mem_singleton.mp taken, captured]
  · refine ⟨fun other mem => ?_, [], (List.append_nil _).symm, by simp⟩
    obtain mem | rfl := List.mem_or_eq_of_mem_set mem
    · exact reachable other mem
    · exact reached (reachable ch (List.mem_of_getElem? kept))

/-! ### Rows of turns -/

/-- In a row of turns those that are about one channel come out as if there were no others. -/
theorem account_run {commands : List Command} (obliged : c.Obliged) (obliged' : d.Obliged)
    (same : c.channels[n]? = d.channels[n]?)
    (about : ∀ command ∈ commands, command.channel?.isSome = true) :
    ((c.run commands).1.filter (·.command.isAbout n)).map Turn.account =
        (d.run (commands.filter (·.isAbout n))).1.map Turn.account ∧
      (c.run commands).2.channels[n]? =
        (d.run (commands.filter (·.isAbout n))).2.channels[n]? := by
  induction commands generalizing c d with
  | nil => exact ⟨rfl, same⟩
  | cons command commands ih =>
    obtain ⟨here, about⟩ := List.forall_mem_cons.mp about
    obtain ⟨m, here⟩ := Option.isSome_iff_exists.mp here
    have obliged₁ := obliged_step obliged here (Prod.eta (c.step command)).symm
    by_cases own : m = n
    · subst own
      have obliged₁' := obliged_step obliged' here (Prod.eta (d.step command)).symm
      obtain ⟨account, same₁⟩ := account_step obliged obliged' same here
        (Prod.eta (c.step command)).symm (Prod.eta (d.step command)).symm
      obtain ⟨accounts, last⟩ := ih obliged₁ obliged₁' same₁ about
      have mine : command.isAbout m = true := decide_eq_true here
      simp only [run, List.filter_cons, mine, if_true, List.map_cons]
      exact ⟨List.cons_eq_cons.mpr ⟨account, accounts⟩, last⟩
    · have same₁ : (c.step command).2.channels[n]? = d.channels[n]? := by
        rw [channels_step obliged here (Prod.eta (c.step command)).symm own, same]
      obtain ⟨accounts, last⟩ := ih obliged₁ obliged' same₁ about
      have foreign : command.isAbout n = false := by
        rw [Command.isAbout, here]
        exact decide_eq_false fun eq => own (Option.some.inj eq)
      simp only [run, List.filter_cons, foreign, Bool.false_eq_true, if_false]
      exact ⟨accounts, last⟩

/-- Every turn of a row is about a channel, and it finds the endpoints obliging. -/
theorem obliged_of_mem_run {commands : List Command} (obliged : c.Obliged)
    (about : ∀ command ∈ commands, command.channel?.isSome = true) {t : Turn}
    (mem : t ∈ (c.run commands).1) :
    t.before.Obliged ∧ ∃ n, t.command.channel? = some n := by
  induction commands generalizing c with
  | nil => contradiction
  | cons command commands ih =>
    obtain ⟨here, about⟩ := List.forall_mem_cons.mp about
    obtain ⟨n, here⟩ := Option.isSome_iff_exists.mp here
    rcases List.mem_cons.mp mem with rfl | mem
    · exact ⟨obliged, n, here⟩
    · exact ih (obliged_step obliged here (Prod.eta (c.step command)).symm) about mem

omit [Memory] in
/-- Something is sent with the options of a turn that sends anything. -/
theorem sendsWith_iff {t : Turn} {o : ServiceOptions} {ts : List Transmission}
    (works : t.Works o ts) (i : Nat) :
    t.sendsWith i = true ↔ ts ≠ [] ∧ o.identity = i := by
  rw [Turn.sendsWith, works.sent, List.any_map, List.any_eq_true]
  constructor
  · rintro ⟨chunk, mem, own⟩
    exact ⟨List.ne_nil_of_mem mem, of_decide_eq_true own⟩
  · rintro ⟨sent, own⟩
    obtain ⟨chunk, mem⟩ := List.exists_mem_of_ne_nil ts sent
    exact ⟨chunk, mem, decide_eq_true own⟩

omit [Memory] in
/-- A turn asks for a handle with options of an identity, once, if it sends something with them and
there was none; and then there is one. -/
theorem handleCalls_of_works {t : Turn} {o : ServiceOptions} {ts : List Transmission}
    (works : t.Works o ts) (i : Nat) :
    t.after.service.handleCalls i = t.before.service.handleCalls i +
        (if i ∉ t.before.service.handles ∧ t.sendsWith i = true then 1 else 0) ∧
      (i ∈ t.after.service.handles ↔ i ∈ t.before.service.handles ∨ t.sendsWith i = true) := by
  constructor
  · rw [Service.handleCalls, works.calls, List.countP_append, Service.countP_callsFor]
    simp only [sendsWith_iff works, and_comm, Service.handleCalls]
  · rw [sendsWith_iff works, works.handles, Service.mem_handlesFor_iff]

/-- In a row of turns a handle is asked for once, if there was none and something is sent with the
options in question. -/
theorem handleCalls_run {commands : List Command} (obliged : c.Obliged)
    (about : ∀ command ∈ commands, command.channel?.isSome = true) (i : Nat) :
    (c.run commands).2.service.handleCalls i = c.service.handleCalls i +
      (if i ∉ c.service.handles ∧ ∃ t ∈ (c.run commands).1, t.sendsWith i = true
        then 1 else 0) := by
  induction commands generalizing c with
  | nil => simp [run]
  | cons command commands ih =>
    obtain ⟨here, about⟩ := List.forall_mem_cons.mp about
    obtain ⟨n, here⟩ := Option.isSome_iff_exists.mp here
    have eq := (Prod.eta (c.step command)).symm
    obtain ⟨o, ts, works, -⟩ := works_step obliged here eq
    obtain ⟨first, known⟩ := handleCalls_of_works works i
    have later := ih (obliged_step obliged here eq) about
    simp only [run, List.exists_mem_cons_iff]
    rw [later, first, Nat.add_assoc]
    by_cases had : i ∈ c.service.handles
    · simp [known, had]
    · by_cases sent : Turn.sendsWith i ⟨command, c, (c.step command).1, (c.step command).2⟩ = true
      · simp [known, had, sent]
      · simp [known, had, sent]

/-- Whether anything is sent with options of an identity is up to what is done with each channel,
not to the order in which it is done. -/
theorem sendsWith_run_iff {commands : List Command} (obliged : c.Obliged)
    (about : ∀ command ∈ commands, command.channel?.isSome = true) (i : Nat) :
    (∃ t ∈ (c.run commands).1, t.sendsWith i = true) ↔
      ∃ n, ∃ t ∈ (c.run (commands.filter (·.isAbout n))).1, t.sendsWith i = true := by
  have seen : ∀ {ts ts' : List Turn}, ts.map Turn.account = ts'.map Turn.account →
      ∀ t ∈ ts, t.sendsWith i = true → ∃ t' ∈ ts', t'.sendsWith i = true := by
    intro ts ts' eq t mem sent
    obtain ⟨t', mem', same⟩ := List.mem_map.mp (eq ▸ List.mem_map_of_mem mem)
    have chunks : t'.sent = t.sent := congrArg Account.sent same
    exact ⟨t', mem', by rwa [Turn.sendsWith, chunks]⟩
  constructor
  · rintro ⟨t, mem, sent⟩
    obtain ⟨-, n, mine⟩ := obliged_of_mem_run obliged about mem
    have own : t ∈ (c.run commands).1.filter (·.command.isAbout n) :=
      List.mem_filter.mpr ⟨mem, decide_eq_true mine⟩
    exact ⟨n, seen (account_run obliged obliged rfl about).1 t own sent⟩
  · rintro ⟨n, t, mem, sent⟩
    obtain ⟨t', own, sent'⟩ := seen (account_run obliged obliged rfl about).1.symm t mem sent
    exact ⟨t', (List.mem_filter.mp own).1, sent'⟩

/-- In a row of turns all snapshots are kept, and what is added to them was taken of channels. -/
theorem taken_run {commands : List Command} (obliged : c.Obliged)
    (reachable : ∀ ch ∈ c.channels, ch.Reachable)
    (about : ∀ command ∈ commands, command.channel?.isSome = true) :
    ∃ taken, (c.run commands).2.snapshots = c.snapshots ++ taken ∧
      ∀ s ∈ taken, ∃ ch : Channel, ch.Reachable ∧ Snapshot.capture ch = .ok s := by
  induction commands generalizing c with
  | nil => exact ⟨[], (List.append_nil _).symm, by simp⟩
  | cons command commands ih =>
    obtain ⟨here, about⟩ := List.forall_mem_cons.mp about
    obtain ⟨n, here⟩ := Option.isSome_iff_exists.mp here
    have eq := (Prod.eta (c.step command)).symm
    obtain ⟨reachable, first, added, own⟩ := taken_step obliged reachable here eq
    obtain ⟨later, added', own'⟩ := ih (obliged_step obliged here eq) reachable about
    refine ⟨first ++ later, ?_, List.forall_mem_append.mpr ⟨own, own'⟩⟩
    rw [run, added', added, List.append_assoc]

/-- Whatever is done with the channels of a client in turn, to each of them it is as if there were
no others: the answers, the chunks, what an observer is told and what becomes of the channel are as
they are when only the turns that are about it are taken. Every chunk is accepted, and there are no
calls but for chunks and handles: a handle is asked for once, in the first turn in which something
is sent with its options, and never if it exists. Which turn is the first is all that the order
decides; that there is one is up to the channels. Snapshots are kept, and those that were taken of
channels can be restored to what they were taken of. -/
theorem channels_apart {last : Client} {commands : List Command} {turns : List Turn}
    (obliged : c.Obliged) (reachable : ∀ ch ∈ c.channels, ch.Reachable)
    (about : ∀ command ∈ commands, command.channel?.isSome = true)
    (h : c.run commands = (turns, last)) :
    (∀ n alone lastAlone, c.run (commands.filter (·.isAbout n)) = (alone, lastAlone) →
      (turns.filter (·.command.isAbout n)).map Turn.account = alone.map Turn.account ∧
        last.channels[n]? = lastAlone.channels[n]?) ∧
    (∀ t ∈ turns, ∃ o ts, t.Works o ts ∧ (ts ≠ [] → t.options? = some o)) ∧
    (∀ i, last.service.handleCalls i = c.service.handleCalls i +
      (if i ∉ c.service.handles ∧ ∃ t ∈ turns, t.sendsWith i = true then 1 else 0) ∧
      ((∃ t ∈ turns, t.sendsWith i = true) ↔
        ∃ n, ∃ t ∈ (c.run (commands.filter (·.isAbout n))).1, t.sendsWith i = true)) ∧
    c.snapshots <+: last.snapshots ∧
    ∀ s ∈ last.snapshots,
      (s ∈ c.snapshots → ∃ ch : Channel, ch.Reachable ∧ Snapshot.capture ch = .ok s) →
      ∀ u : Service, ∃ ch, (s.restore u).1 = .ok ch ∧ Snapshot.capture ch = .ok s := by
  obtain ⟨rfl, rfl⟩ : turns = (c.run commands).1 ∧ last = (c.run commands).2 := by simp [h]
  obtain ⟨taken, added, own⟩ := taken_run obliged reachable about
  refine ⟨fun n alone lastAlone eq => ?_, fun t mem => ?_,
    fun i => ⟨handleCalls_run obliged about i, sendsWith_run_iff obliged about i⟩,
    ⟨taken, added.symm⟩, fun s mem before u => ?_⟩
  · have accounts := account_run (n := n) obliged obliged rfl about
    rwa [eq] at accounts
  · obtain ⟨obliged, n, about⟩ := obliged_of_mem_run obliged about mem
    exact works_step obliged about (step_of_mem_run mem)
  · rw [added] at mem
    obtain ⟨ch, reachable, captured⟩ := (List.mem_append.mp mem).elim before (own s)
    exact Snapshot.exists_restore_of_capture reachable captured u

end Machine

/-- Two channels come from one snapshot. A chunk and one more byte are written to the first of them,
then they are closed in turn; they share a handle that is asked for once. -/
theorem channels_apart_twins :
    ∃ (data : ByteArray) (s : Snapshot) (ch : Channel) (c last : Client) (turns : List Turn),
      data.size = 262145 ∧ Snapshot.capture ch = .ok s ∧ (s.restore {}).1 = .ok ch ∧
      c = { channels := [ch, ch], snapshots := [s] } ∧
      c.run [.operate 0 (.write (.bytes data)), .operate 1 .close, .operate 0 .close, .capture 1] =
        (turns, last) ∧
      turns.head?.map (fun t => t.sent.map (·.chunk.length)) = some [262144] ∧
      last.service.handleCalls 0 = 1 ∧
      (turns.filter (·.command.isAbout 1)).map Turn.account =
        (c.run [.operate 1 .close, .capture 1]).1.map Turn.account ∧
      (turns.filter (·.command.isAbout 0)).map Turn.account =
        (c.run [.operate 0 (.write (.bytes data)), .operate 0 .close]).1.map Turn.account ∧
      ∀ u : Service, ∃ ch', (s.restore u).1 = .ok ch' ∧ Snapshot.capture ch' = .ok s := by
  -- The bytes themselves do not matter, and so they are never computed.
  obtain ⟨data, data_size⟩ : ∃ data : ByteArray, data.size = 262145 :=
    ⟨ChunkBuffer.zeros 262145, ChunkBuffer.size_zeros 262145⟩
  obtain ⟨ch, made, ch_eq⟩ : ∃ ch, Channel.make ⟨0, none, "east"⟩ ⟨"b", "o", none, none⟩ "u"
      (.int 262144) 0 none true = .ok ch ∧ ch = Channel.fresh ⟨0, none, "east"⟩
        ⟨"b", "o", none, none⟩ "u" ⟨262144, by decide, by decide⟩ := ⟨_, rfl, rfl⟩
  obtain ⟨s, taken, restored⟩ : ∃ s, Snapshot.capture ch = .ok s ∧ (s.restore {}).1 = .ok ch := by
    subst ch_eq
    exact ⟨_, rfl, rfl⟩
  obtain ⟨c, c_eq⟩ : ∃ c : Client, c = { channels := [ch, ch], snapshots := [s] } := ⟨_, rfl⟩
  have reachable := Channel.Reachable.of_make ⟨by decide, by decide⟩ made
  have channels : ∀ other ∈ c.channels, other = ch := by simp [c_eq]
  have obliged : c.Obliged := fun other _ => by
    rw [c_eq]
    exact ⟨by simp, by simp⟩
  obtain ⟨turns, last, run⟩ : ∃ turns last, c.run [.operate 0 (.write (.bytes data)),
      .operate 1 .close, .operate 0 .close, .capture 1] = (turns, last) := ⟨_, _, rfl⟩
  have accepts : Service.Accepts {} ch.options := by
    rw [ch_eq]
    exact ⟨.inr rfl, fun _ mem => by contradiction⟩
  have room : ch.HasRoom data.size := by
    rw [ch_eq]
    exact .inl (by decide +kernel)
  have stream_eq : data = ch.buffer.contents ++ data := by simp [ch_eq, Channel.fresh]
  obtain ⟨ch₁, s₁, wrote, sends⟩ :=
    reachable.sound.sends_slices (by rw [ch_eq]; rfl) accepts room stream_eq
  -- One full chunk is sent in the first turn.
  obtain ⟨t, head, sent⟩ : ∃ t, turns.head? = some t ∧
      t.sent = [Delivery.slice ch.options ch.uploadId 262144 0 data 0] := by
    have after : (c.step (.operate 0 (.write (.bytes data)))).2.service = s₁ := by
      rw [c_eq]
      exact congrArg (fun r => r.2.2) wrote
    obtain rfl := congrArg Prod.fst run
    refine ⟨⟨_, c, _, (c.step (.operate 0 (.write (.bytes data)))).2⟩, rfl, ?_⟩
    rw [Turn.sent, after, c_eq, sends.deliveriesSince, data_size, ch_eq]
    rfl
  have first : ∃ t ∈ turns, t.sendsWith 0 = true := by
    refine ⟨t, List.mem_of_mem_head? head, ?_⟩
    rw [Turn.sendsWith, sent, ch_eq]
    rfl
  obtain ⟨apart, -, asked, kept, restores⟩ := channels_apart obliged
    (fun other mem => channels other mem ▸ reachable) (by simp [Command.channel?]) run
  refine ⟨data, s, ch, c, last, turns, data_size, taken, restored, c_eq, run,
    by rw [head, Option.map_some, sent]; rfl, ?_,
    (apart 1 _ _ rfl).1, (apart 0 _ _ rfl).1, ?_⟩
  · rw [(asked 0).1, if_pos ⟨by simp [c_eq], first⟩, c_eq]
    rfl
  · exact restores s (kept.subset (by simp [c_eq])) fun _ => ⟨ch, reachable, taken⟩

end Client

end ResumableUpload
