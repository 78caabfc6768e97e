import ResumableUpload.Client.Veil
import ResumableUpload.Proofs.Snapshot.Veil

/-!
# The content of bytes is not seen

Two clients that differ in bytes only, and not in their number, get the same answers, and differ in
bytes only afterwards. So nothing that a run shows depends on the content of bytes: not what it
answers, not its log, not its calls, not even the length of a document. The one thing that looks at
the bytes themselves is the comparison of two snapshots.

## Main definitions

* `Client.Alike` — two clients that differ in the content of bytes.
* `Client.AlikeAfter` — the same of two clients after a command, and of what they were told.

## Main results

* `Client.alike_step` — one command.
* `Client.seen_run` — a row of commands.
* `Client.content_unseen` — a row of commands of a new client.
-/

namespace ResumableUpload

/-- Commands that look the same under a veil create channels from origins that do, perform
operations that do, or are the same. -/
theorem Command.cases_of_veiled_eq {command command' : Command}
    (same : command'.veiled = command.veiled) :
    (∃ origin origin', command = .create origin ∧ command' = .create origin' ∧
      origin'.veiled = origin.veiled) ∨
    (∃ n op op', command = .operate n op ∧ command' = .operate n op' ∧
      op'.veiled = op.veiled) ∨
    command' = command := by
  cases command <;> cases command' <;> simp_all [Command.veiled]

/-- Documents of snapshots that look the same under a veil look the same when they are blanked. -/
theorem Snapshot.blanked_toJson {s s' : Snapshot} (same : s'.veiled = s.veiled) :
    blanked s'.toJson = blanked s.toJson := by
  rw [blanked, ← length_toJson_veiled, same, length_toJson_veiled, blanked]

/-- Documents of snapshots that look the same under a veil are read alike. -/
theorem Snapshot.map_veiled_ofJson (options : ServiceOptions) {s s' : Snapshot}
    (same : s'.veiled = s.veiled) :
    (ofJson options s'.toJson).map veiled = (ofJson options s.toJson).map veiled := by
  rw [← ofJson_veiled, same, ofJson_veiled]

namespace Client

/-- Two clients that differ in the content of bytes. Their documents were written from snapshots of
which the same holds. -/
structure Alike (c c' : Client) : Prop where
  /-- The channels. -/
  channels : c'.channels.map Channel.veiled = c.channels.map Channel.veiled
  /-- The snapshots. -/
  snapshots : c'.snapshots.map Snapshot.veiled = c.snapshots.map Snapshot.veiled
  /-- The documents. -/
  documents : ∃ written written' : List Snapshot, c.documents = written.map Snapshot.toJson ∧
    c'.documents = written'.map Snapshot.toJson ∧
    written'.map Snapshot.veiled = written.map Snapshot.veiled
  /-- The service. -/
  service : c'.service.veiled = c.service.veiled

/-- Two answers that look the same under a veil, and two clients of which the same holds. -/
structure AlikeAfter (told told' : Except Problem Response × Client) : Prop where
  /-- The answers. -/
  answer : told'.1.map Response.veiled = told.1.map Response.veiled
  /-- The clients. -/
  alike : told.2.Alike told'.2

variable {c c' : Client}

/-! ### One command -/

/-- What is looked up among things that look the same looks the same. -/
theorem map_getElem?_eq {α β : Type} {f : α → β} {kept kept' : List α}
    (same : kept'.map f = kept.map f) (n : Nat) : kept'[n]?.map f = kept[n]?.map f := by
  rw [← List.getElem?_map, same, List.getElem?_map]

/-- Something is done with what was kept, if it was. -/
theorem alike_withKept {α β : Type} (alike : c.Alike c') {f : α → β} {kept kept' : Option α}
    (same : kept'.map f = kept.map f) {use use' : α → Except Problem Response × Client}
    (each : ∀ a a', f a' = f a → AlikeAfter (use a) (use' a')) :
    AlikeAfter (c.withKept kept use) (c'.withKept kept' use') := by
  cases kept with
  | none =>
    obtain rfl : kept' = none := Option.map_eq_none_iff.mp same
    exact ⟨rfl, alike⟩
  | some a =>
    obtain ⟨a', rfl, veiled⟩ := Option.map_eq_some_iff.mp same
    exact each a a' veiled

/-- A snapshot is shown as it would be under a veil. -/
theorem shown_veiled (s : Snapshot) : shown s.veiled = shown s := by
  rw [shown, shown, s.isWritable_veiled, s.literal_veiled, s.summary_veiled]

/-- What is done with something made of what was kept is done with what was kept. -/
theorem withKept_map {α β : Type} (c : Client) (kept : Option α) (f : α → β)
    (use : β → Except Problem Response × Client) :
    c.withKept (kept.map f) use = c.withKept kept fun a => use (f a) := by
  cases kept <;> rfl

section Machine

variable [Memory]

/-- A channel is created. -/
theorem alike_create (alike : c.Alike c') {origin origin' : Origin}
    (same : origin'.veiled = origin.veiled) :
    AlikeAfter (c.keepChannel (origin.create c.service))
      (c'.keepChannel (origin'.create c'.service)) := by
  rcases created : origin.create c.service with ⟨result, s⟩
  rcases created' : origin'.create c'.service with ⟨result', s'⟩
  have veiled := Origin.create_veiled created'
  rw [same, alike.service, Origin.create_veiled created] at veiled
  obtain ⟨results, services⟩ := Prod.mk.inj veiled
  cases result with
  | error problem =>
    cases result' with
    | error problem' =>
      obtain rfl : problem = problem' := Except.error.inj results
      exact ⟨rfl, { alike with service := services.symm }⟩
    | ok ch' => contradiction
  | ok ch =>
    cases result' with
    | error problem' => contradiction
    | ok ch' =>
      have channels : ch.veiled = ch'.veiled := Except.ok.inj results
      refine ⟨congrArg (Except.ok ∘ Response.channel) channels.symm,
        { alike with channels := ?_, service := services.symm }⟩
      simp only [keepChannel, List.map_append, List.map_singleton, alike.channels, channels]

omit [Memory] in
/-- A snapshot is kept, if there is one. -/
theorem alike_keepSnapshot (alike : c.Alike c') {taken taken' : Except Report Snapshot}
    (same : taken'.map Snapshot.veiled = taken.map Snapshot.veiled) :
    AlikeAfter (c.keepSnapshot taken) (c'.keepSnapshot taken') := by
  cases taken with
  | error report =>
    cases taken' with
    | error report' =>
      obtain rfl : report' = report := Except.error.inj same
      exact ⟨rfl, alike⟩
    | ok s' => contradiction
  | ok s =>
    cases taken' with
    | error report' => contradiction
    | ok s' =>
      have snapshots : s'.veiled = s.veiled := Except.ok.inj same
      refine ⟨congrArg (Except.ok ∘ Response.snapshot) snapshots,
        { alike with snapshots := ?_ }⟩
      simp only [keepSnapshot, List.map_append, List.map_singleton, alike.snapshots, snapshots]

/-- An operation is performed. -/
theorem alike_operate (alike : c.Alike c') (n : Nat) {op op' : Operation}
    (same : op'.veiled = op.veiled) :
    AlikeAfter (c.step (.operate n op)) (c'.step (.operate n op')) := by
  refine alike_withKept alike (map_getElem?_eq alike.channels n) fun ch ch' channel => ?_
  rcases performed : ch.perform op c.service with ⟨result, ch₁, s₁⟩
  rcases performed' : ch'.perform op' c'.service with ⟨result', ch₁', s₁'⟩
  have veiled := Channel.perform_veiled performed'
  rw [channel, same, alike.service, Channel.perform_veiled performed] at veiled
  simp only [Prod.mk.injEq] at veiled
  obtain ⟨rfl, channels, services⟩ := veiled
  refine ⟨rfl, { alike with channels := ?_, service := services.symm }⟩
  simp only [List.map_set, alike.channels, channels]

/-- A handle is asked for. -/
theorem alike_requestHandle (alike : c.Alike c') (options : ServiceOptions) :
    AlikeAfter (c.step (.requestHandle options)) (c'.step (.requestHandle options)) := by
  have veiled := Service.requestHandle_veiled options c'.service
  rw [alike.service, Service.requestHandle_veiled] at veiled
  obtain ⟨results, services⟩ := Prod.mk.inj veiled
  simp only [step, results]
  exact ⟨rfl, { alike with service := services.symm }⟩

/-- Two clients that differ in the content of bytes get the same answer to everything but the
comparison of two snapshots, and differ in the content of bytes afterwards. -/
theorem alike_step (alike : c.Alike c') {command command' : Command}
    (same : command'.veiled = command.veiled) (noComparison : ∀ n m, command ≠ .compare n m) :
    AlikeAfter (c.step command) (c'.step command') := by
  obtain ⟨origin, origin', rfl, rfl, inside⟩ | ⟨n, op, op', rfl, rfl, inside⟩ | rfl :=
    Command.cases_of_veiled_eq same
  · exact alike_create alike inside
  · exact alike_operate alike n inside
  have channel := map_getElem?_eq alike.channels
  have snapshot := map_getElem?_eq alike.snapshots
  obtain ⟨written, written', documents, documents', sources⟩ := alike.documents
  cases command' with
  | create origin => exact alike_create alike rfl
  | operate n op => exact alike_operate alike n rfl
  | capture n =>
    refine alike_withKept alike (channel n) fun ch ch' same => alike_keepSnapshot alike ?_
    rw [← Snapshot.capture_veiled, same, Snapshot.capture_veiled]
  | describe options blob fields => exact alike_keepSnapshot alike rfl
  | restore n =>
    exact alike_withKept alike (snapshot n) fun s s' same =>
      alike_create alike (congrArg Origin.restored same)
  | write n =>
    refine alike_withKept alike (snapshot n) fun s s' same =>
      ⟨congrArg (Except.ok ∘ Response.document) (Snapshot.blanked_toJson same),
        { alike with documents := ⟨written ++ [s], written' ++ [s'], ?_, ?_, ?_⟩ }⟩
    · simp only [documents, List.map_append, List.map_singleton]
    · simp only [documents', List.map_append, List.map_singleton]
    · simp only [sources, List.map_append, List.map_singleton, same]
  | read n options =>
    simp only [step, documents, documents', List.getElem?_map, withKept_map]
    exact alike_withKept alike (map_getElem?_eq sources n) fun s s' same =>
      alike_keepSnapshot alike (Snapshot.map_veiled_ofJson options same)
  | load document options => exact alike_keepSnapshot alike rfl
  | display n =>
    refine alike_withKept alike (snapshot n) fun s s' same => ⟨?_, alike⟩
    rw [← shown_veiled s, ← shown_veiled s', same]
  | compare n m => exact absurd rfl (noComparison n m)
  | compareOptions first second => exact ⟨rfl, alike⟩
  | requestHandle options => exact alike_requestHandle alike options

omit [Memory] in
/-- What is seen of two turns with such an end is the same. -/
theorem AlikeAfter.seen_eq {told told' : Except Problem Response × Client}
    (after : AlikeAfter told told') (command command' : Command) (c c' : Client) :
    Turn.seen ⟨command', c', told'.1, told'.2⟩ = Turn.seen ⟨command, c, told.1, told.2⟩ := by
  have calls : told'.2.service.veiled.calls = told.2.service.veiled.calls := by
    rw [after.alike.service]
  have events : told'.2.service.veiled.events = told.2.service.veiled.events := by
    rw [after.alike.service]
  simp only [Turn.seen, Sight.mk.injEq]
  exact ⟨after.answer, after.alike.channels, calls, events⟩

/-! ### A row of commands -/

/-- What is seen of a row of commands is what is seen of the first and of the others. -/
theorem seen_run_cons (c : Client) (command : Command) (commands : List Command) :
    (c.run (command :: commands)).1.map Turn.seen =
      Turn.seen ⟨command, c, (c.step command).1, (c.step command).2⟩ ::
        ((c.step command).2.run commands).1.map Turn.seen := rfl

/-- What is seen of two runs that differ in the content of bytes is the same. -/
theorem seen_run (alike : c.Alike c') {commands commands' : List Command}
    (same : commands'.map Command.veiled = commands.map Command.veiled)
    (noComparison : ∀ n m, .compare n m ∉ commands) :
    (c'.run commands').1.map Turn.seen = (c.run commands).1.map Turn.seen := by
  induction commands generalizing c c' commands' with
  | nil =>
    obtain rfl : commands' = [] := List.map_eq_nil_iff.mp same
    rfl
  | cons command commands ih =>
    obtain ⟨command', later, rfl, first, same⟩ := List.map_eq_cons_iff.mp same
    have after := alike_step alike first fun n m eq => noComparison n m (eq ▸ List.mem_cons_self)
    rw [seen_run_cons, seen_run_cons, after.seen_eq command command' c c',
      ih after.alike same fun n m mem => noComparison n m (List.mem_cons_of_mem _ mem)]

/-- Two runs that are the same but for the content of bytes, and in which no snapshots are compared,
show the same: the same answers, but for the bytes of snapshots and the texts of documents, of which
the length is the same; the same log; and the same calls, but for the bytes that are sent. -/
theorem content_unseen (s : Service) {commands commands' : List Command}
    (same : commands'.map Command.veiled = commands.map Command.veiled)
    (noComparison : ∀ n m, .compare n m ∉ commands) :
    (Client.run { service := s } commands').1.map Turn.seen =
      (Client.run { service := s } commands).1.map Turn.seen :=
  seen_run ⟨rfl, rfl, ⟨[], [], rfl, rfl, rfl⟩, rfl⟩ same noComparison

end Machine

/-- Three bytes are buffered, five are written, and all is shown: twice, with other bytes. -/
theorem content_unseen_buffered :
    (Client.run {}
        [.create (.made ⟨0, some "p", "d"⟩ ⟨"b", "n", none, none⟩ "u" (.int 262144) 0
            (some ⟨#[1, 2, 3]⟩) true),
          .operate 0 (.write (.bytes ⟨#[4, 5, 6, 7, 8]⟩)), .capture 0, .display 0, .write 0,
          .operate 0 .close]).1.map Turn.seen =
      (Client.run {}
        [.create (.made ⟨0, some "p", "d"⟩ ⟨"b", "n", none, none⟩ "u" (.int 262144) 0
            (some ⟨#[60, 62, 34]⟩) true),
          .operate 0 (.write (.bytes ⟨#[0, 0, 255, 10, 13]⟩)), .capture 0, .display 0, .write 0,
          .operate 0 .close]).1.map Turn.seen :=
  content_unseen {} rfl (by simp)

end Client

end ResumableUpload
