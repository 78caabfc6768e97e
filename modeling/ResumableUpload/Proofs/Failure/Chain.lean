import ResumableUpload.Failure.Chain

/-!
# The fault that decides

Of the faults of a failure, the first one that is transient makes it transient, if all in front of
it yield. So nothing behind a fault that does not yield plays any part, whatever it is, and nothing
is changed by wrapping a failure, however often. On a stack of limited depth there is no answer if
that many faults yield and more follow.

## Main results

* `KnownKind.inherited_iff` — a test of kinds that special cases inherit.
* `ExternalKind.isTransient_iff`, `ExternalKind.isAnswered_iff`, `ExternalKind.isOrdinary_iff` — the
  tests hold of the special cases of a few kinds.
* `Fault.verdict_eq_some_true_iff`, `Fault.verdict_eq_none_iff` — what a fault decides.
* `Failure.chainVerdict_cons`, `Failure.chainVerdict_iff` — what a chain decides.
* `Failure.classify_eq_none_iff`, `Failure.eq_of_classify` — the same on a limited stack.
* `Failure.isRetryable_iff` — which failures are transient.
-/

namespace ResumableUpload

/-! ### Kinds -/

namespace KnownKind

/-- All known kinds. -/
def all : List KnownKind :=
  SystemKind.all.map system ++ TransportKind.all.map transport ++ ProgramKind.all.map program

/-- No kind is left out. -/
theorem mem_all (kind : KnownKind) : kind ∈ all := by
  cases kind with
  | system kind => cases kind <;> decide
  | transport kind => cases kind <;> decide
  | program kind => cases kind <;> decide

/-- How far a fault of a kind is from being any fault at all. -/
def rank : KnownKind → Nat
  | program .any => 0
  | program .textEncoding | program .textTranslation | program .tabs => 4
  | program .textCoding | program .indentation => 3
  | program kind => if kind.parents = [.any] then 1 else 2
  | system .general => 2
  | system kind => if kind.parents = [.general] then 3 else 4
  | transport .warning => 2
  | transport .request | transport .fileMode | transport .dependency => 3
  | transport kind => if kind.parents = [.request] then 4 else 5

/-- What a kind is a special case of is less far away. -/
theorem rank_lt {kind parent : KnownKind} (mem : parent ∈ kind.parents) :
    parent.rank < kind.rank :=
  (by decide : ∀ kind ∈ all, ∀ parent ∈ kind.parents, parent.rank < kind.rank) kind kind.mem_all
    parent mem

/-- A test that holds of some kinds and that special cases inherit, from these kinds only, holds of
their special cases. -/
theorem inherited_iff {test : KnownKind → Bool} {roots : List KnownKind}
    (base : ∀ kind ∈ roots, test kind = true)
    (down : ∀ kind ∈ all, ∀ parent ∈ kind.parents, test parent = true → test kind = true)
    (up : ∀ kind ∈ all, test kind = true →
      kind ∈ roots ∨ ∃ parent ∈ kind.parents, test parent = true) (kind : KnownKind) :
    test kind = true ↔ ∃ root ∈ roots, kind.IsA root := by
  constructor
  · -- Every step upwards is a step nearer to where there are no more parents.
    induction rank_eq : kind.rank using Nat.strongRecOn generalizing kind with
    | ind rank ih =>
      intro holds
      rcases up kind kind.mem_all holds with mem | ⟨parent, isParent, holds⟩
      · exact ⟨kind, mem, .refl⟩
      · obtain ⟨root, mem, isA⟩ := ih parent.rank (rank_eq ▸ rank_lt isParent) parent rfl holds
        exact ⟨root, mem, .head isParent isA⟩
  · rintro ⟨root, mem, isA⟩
    induction isA using Relation.ReflTransGen.head_induction_on with
    | refl => exact base root mem
    | head parent _ ih => exact down _ (mem_all _) _ parent ih

/-- The transient kinds are those listed and their special cases. -/
theorem isTransient_iff (kind : KnownKind) :
    kind.isTransient = true ↔ ∃ transient ∈ transientKinds, kind.IsA transient :=
  inherited_iff (by decide) (by decide) (by decide) kind

/-- Faults with an answer are those with a status, and their special cases. -/
theorem isAnswered_iff (kind : KnownKind) :
    kind.isAnswered = true ↔ kind.IsA (.transport .status) := by
  have single : kind.isAnswered = true ↔ ∃ root ∈ [.transport .status], kind.IsA root :=
    inherited_iff (by decide) (by decide) (by decide) kind
  simpa using single

/-- Faults that are no requests to stop are the special cases of one kind. -/
theorem isOrdinary_iff (kind : KnownKind) :
    kind.isOrdinary = true ↔ kind.IsA (.program .ordinary) := by
  have single : kind.isOrdinary = true ↔ ∃ root ∈ [.program .ordinary], kind.IsA root :=
    inherited_iff (by decide) (by decide) (by decide) kind
  simpa using single

end KnownKind

namespace ExternalKind

/-- Special cases of a known kind are those of what it is declared with. -/
theorem isA_known_iff {kind above : KnownKind} : (known kind).IsA above ↔ kind.IsA above :=
  ⟨fun isA => by cases isA; assumption, .known⟩

/-- Special cases of a declared kind are those of what it is declared with. -/
theorem isA_declared_iff {name : String} {parents : List KnownKind} {above : KnownKind} :
    (declared name parents).IsA above ↔ ∃ parent ∈ parents, parent.IsA above :=
  ⟨fun isA => by cases isA; exact ⟨_, ‹_›, ‹_›⟩, fun ⟨_, mem, isA⟩ => .declared mem isA⟩

/-- A test of known kinds that is inherited from some of them is so for all kinds. -/
theorem inherits_iff {test : KnownKind → Bool} {roots : List KnownKind}
    (known : ∀ kind : KnownKind, test kind = true ↔ ∃ root ∈ roots, kind.IsA root)
    (kind : ExternalKind) : kind.inherits test = true ↔ ∃ root ∈ roots, kind.IsA root := by
  cases kind with
  | known kind => simp only [inherits, known, isA_known_iff]
  | declared name parents =>
    simp only [inherits, List.any_eq_true, known, isA_declared_iff]
    exact ⟨fun ⟨parent, mem, root, root_mem, isA⟩ => ⟨root, root_mem, parent, mem, isA⟩,
      fun ⟨root, root_mem, parent, mem, isA⟩ => ⟨parent, mem, root, root_mem, isA⟩⟩

/-- The transient kinds are the special cases of those listed. -/
theorem isTransient_iff (kind : ExternalKind) :
    kind.isTransient = true ↔ ∃ transient ∈ transientKinds, kind.IsA transient :=
  inherits_iff KnownKind.isTransient_iff kind

/-- Faults with an answer are the special cases of one kind. -/
theorem isAnswered_iff (kind : ExternalKind) :
    kind.isAnswered = true ↔ kind.IsA (.transport .status) := by
  have single : kind.isAnswered = true ↔ ∃ root ∈ [.transport .status], kind.IsA root :=
    inherits_iff (by simpa using KnownKind.isAnswered_iff) kind
  simpa using single

/-- Faults that are no requests to stop are the special cases of one kind. -/
theorem isOrdinary_iff (kind : ExternalKind) :
    kind.isOrdinary = true ↔ kind.IsA (.program .ordinary) := by
  have single : kind.isOrdinary = true ↔ ∃ root ∈ [.program .ordinary], kind.IsA root :=
    inherits_iff (by simpa using KnownKind.isOrdinary_iff) kind
  simpa using single

end ExternalKind

/-! ### Faults -/

/-- A status is transient if it is listed. -/
theorem isTransientStatus_iff (status : Int) :
    isTransientStatus status = true ↔ status ∈ transientCodes := by
  rw [isTransientStatus, decide_eq_true_iff, transientCodes]

/-- Flag or code say that a storage fault is transient. -/
theorem StorageFault.isFlagged_iff (fault : StorageFault) :
    fault.isFlagged = true ↔
      fault.retryable = true ∨ ∃ code, fault.code = some code ∧ code ∈ transientCodes := by
  rw [isFlagged, Bool.or_eq_true]
  cases fault.code with
  | none => simp
  | some code => simp [isTransientStatus_iff]

namespace Fault

/-- A storage fault is transient if it yields otherwise, and flag or code say so. -/
theorem isTransient_storage_iff (fault : StorageFault) :
    (storage fault).IsTransient ↔ (storage fault).Yields ∧ fault.isFlagged = true := by
  rw [fault.isFlagged_iff]
  constructor
  · intro transient
    cases transient with
    | flagged yields flag => exact ⟨yields, .inl flag⟩
    | coded yields given mem => exact ⟨yields, .inr ⟨_, given, mem⟩⟩
  · rintro ⟨yields, flag | ⟨code, given, mem⟩⟩
    · exact .flagged yields flag
    · exact .coded yields given mem

/-- A fault from outside is transient if the status of an answer says so, or else its kind. -/
theorem isTransient_external_iff (fault : ExternalFault) :
    (external fault).IsTransient ↔
      if fault.kind.isAnswered = true then
        ∃ status, fault.status = some status ∧ status ∈ transientCodes
      else fault.kind.isTransient = true := by
  rw [fault.kind.isTransient_iff]
  constructor
  · intro transient
    cases transient with
    | answered kind given mem =>
      exact if_pos (fault.kind.isAnswered_iff.mpr kind) ▸ ⟨_, given, mem⟩
    | special other mem isA =>
      exact if_neg (mt fault.kind.isAnswered_iff.mp other) ▸ ⟨_, mem, isA⟩
  · intro transient
    split at transient
    next kind =>
      obtain ⟨status, given, mem⟩ := transient
      exact .answered (fault.kind.isAnswered_iff.mp kind) given mem
    next other =>
      obtain ⟨kind, mem, isA⟩ := transient
      exact .special (mt fault.kind.isAnswered_iff.mpr other) mem isA

/-- What a storage fault decides. -/
theorem verdict_storage (fault : StorageFault) :
    (storage fault).verdict =
      if fault.kind.isClosed then some false else if fault.isFlagged then some true else none := rfl

/-- What a fault from outside decides. -/
theorem verdict_external (fault : ExternalFault) :
    (external fault).verdict =
      if fault.kind.isAnswered then some (external fault).isAnsweredTransiently
      else some fault.kind.isTransient := rfl

/-- A fault decides for a transient failure if it is transient. -/
theorem verdict_eq_some_true_iff (fault : Fault) :
    fault.verdict = some true ↔ fault.IsTransient := by
  cases fault with
  | storage fault =>
    rw [isTransient_storage_iff, verdict_storage, Yields]
    cases fault.kind.isClosed <;> cases fault.isFlagged <;> simp
  | external fault =>
    rw [isTransient_external_iff, verdict_external]
    split
    next =>
      rw [isAnsweredTransiently]
      cases fault.status <;> simp [isTransientStatus_iff]
    next => simp

/-- A fault leaves the decision to its cause if it yields and is not transient. -/
theorem verdict_eq_none_iff (fault : Fault) :
    fault.verdict = none ↔ fault.Yields ∧ ¬fault.IsTransient := by
  cases fault with
  | storage fault =>
    rw [isTransient_storage_iff, verdict_storage, Yields]
    cases fault.kind.isClosed <;> cases fault.isFlagged <;> simp
  | external fault =>
    rw [verdict_external, Yields]
    split <;> simp

/-- The fault of a closed channel is not transient. -/
theorem not_isTransient_of_closed {fault : StorageFault} (closed : fault.kind.isClosed = true) :
    ¬(storage fault).IsTransient := by
  rw [isTransient_storage_iff, Yields, closed]
  exact fun transient => absurd transient.1.symm Bool.false_ne_true

end Fault

namespace Failure

variable {f g : Failure} {before after : List Fault} {stop : Fault}

/-! ### Chains -/

/-- A chain is transient if its first fault is, or if that yields to the rest, and the rest is. -/
theorem chainVerdict_cons (fault : Fault) (causes : List Fault) :
    chainVerdict (fault :: causes) = true ↔
      fault.IsTransient ∨ fault.Yields ∧ chainVerdict causes = true := by
  rw [chainVerdict]
  rcases decided : fault.verdict with _ | _ | _
  · obtain ⟨yields, calm⟩ := fault.verdict_eq_none_iff.mp decided
    simp [yields, calm]
  · have calm : ¬fault.IsTransient := by simp [← fault.verdict_eq_some_true_iff, decided]
    have stays : ¬fault.Yields := fun yields => by
      simpa [decided] using fault.verdict_eq_none_iff.mpr ⟨yields, calm⟩
    simp [stays, calm]
  · simp [fault.verdict_eq_some_true_iff.mp decided]

/-- A chain is transient if it holds a transient fault behind yielding ones. -/
theorem chainVerdict_iff (chain : List Fault) :
    chainVerdict chain = true ↔ ∃ number fault, (chain[number]? = some fault ∧
      ∀ earlier ∈ chain.take number, earlier.Yields) ∧ fault.IsTransient := by
  induction chain with
  | nil => simp [chainVerdict]
  | cons first causes ih =>
    rw [chainVerdict_cons, ih]
    constructor
    · rintro (transient | ⟨yields, number, fault, ⟨found, passed⟩, transient⟩)
      · exact ⟨0, first, ⟨rfl, by simp⟩, transient⟩
      · exact ⟨number + 1, fault, ⟨found, List.forall_mem_cons.mpr ⟨yields, passed⟩⟩, transient⟩
    · rintro ⟨number, fault, ⟨found, passed⟩, transient⟩
      cases number with
      | zero =>
        obtain rfl : first = fault := by simpa using found
        exact .inl transient
      | succ number =>
        obtain ⟨yields, passed⟩ := List.forall_mem_cons.mp passed
        exact .inr ⟨yields, number, fault, ⟨found, passed⟩, transient⟩

/-- Nothing behind a fault that does not yield plays any part. -/
theorem chainVerdict_append (stays : ¬stop.Yields) (before after after' : List Fault) :
    chainVerdict (before ++ stop :: after) = chainVerdict (before ++ stop :: after') := by
  rw [Bool.eq_iff_iff]
  induction before with
  | nil => simp only [List.nil_append, chainVerdict_cons, stays, false_and]
  | cons first before ih => simp only [List.cons_append, chainVerdict_cons, ih]

/-- A closed channel ends the chain in front of it. -/
theorem chainVerdict_closed {fault : StorageFault} (closed : fault.kind.isClosed = true)
    (before after : List Fault) :
    chainVerdict (before ++ .storage fault :: after) = chainVerdict before := by
  rw [Bool.eq_iff_iff]
  induction before with
  | nil =>
    rw [List.nil_append, chainVerdict_cons]
    simp [Fault.not_isTransient_of_closed closed, Fault.Yields, closed, chainVerdict]
  | cons first before ih => simp only [List.cons_append, chainVerdict_cons, ih]

/-! ### Stacks of limited depth -/

/-- With room for one call more, a fault that decides is heard, and any other one hands over to its
cause, if it has one. -/
theorem classify_succ (depth : Nat) (fault : Fault) (causes : List Fault) :
    classify (depth + 1) ⟨fault, causes⟩ = match fault.verdict, causes with
      | some verdict, _ => some verdict
      | none, [] => some false
      | none, cause :: causes => classify depth ⟨cause, causes⟩ := rfl

/-- There is no answer just when as many faults as there is room for calls leave the decision to
their causes, and more follow. -/
theorem classify_eq_none_iff (depth : Nat) (f : Failure) :
    f.classify depth = none ↔ depth < f.chain.length ∧
      ∀ fault ∈ f.chain.take depth, fault.Yields ∧ ¬fault.IsTransient := by
  -- Every call looks at one fault and hands the rest of the chain to the next one.
  induction depth generalizing f with
  | zero => simp [classify, chain]
  | succ depth ih =>
    obtain ⟨fault, causes⟩ := f
    rw [classify_succ, chain, List.take_succ_cons, List.forall_mem_cons,
      ← fault.verdict_eq_none_iff, List.length_cons, Nat.add_lt_add_iff_right]
    rcases fault.verdict with _ | verdict
    · cases causes with
      | nil => simp
      | cons cause causes =>
        simp only [true_and]
        exact ih ⟨cause, causes⟩
    · simp

/-- Any answer is the right one. -/
theorem eq_of_classify {depth : Nat} {answer : Bool} (answered : f.classify depth = some answer) :
    answer = f.isRetryable := by
  induction depth generalizing f with
  | zero => contradiction
  | succ depth ih =>
    obtain ⟨fault, causes⟩ := f
    rw [classify_succ] at answered
    rw [isRetryable, chainVerdict]
    rcases decided : fault.verdict with _ | verdict
    · rw [decided] at answered
      cases causes with
      | nil => exact (Option.some.inj answered).symm
      | cons cause causes => exact ih answered
    · rw [decided] at answered
      exact (Option.some.inj answered).symm

/-! ### Failures -/

/-- What is wrapped is the same as before, or the cause of a storage fault that only yields. -/
theorem Wraps.cases_eq (wraps : Wraps f g) :
    g = f ∨ ∃ fault : StorageFault, Fault.Yields (.storage fault) ∧
      ¬Fault.IsTransient (.storage fault) ∧ g = ⟨.storage fault, f.chain⟩ := by
  cases wraps with
  | worded message =>
    rw [wrap]
    split
    · exact .inl rfl
    · refine .inr ⟨.plain .general message, ?_, ?_, rfl⟩
      · rfl
      · rw [Fault.isTransient_storage_iff]
        exact fun transient => absurd transient.2 Bool.false_ne_true
  | @caused fault yields unflagged uncoded =>
    refine .inr ⟨fault, yields, ?_, rfl⟩
    rw [Fault.isTransient_storage_iff, fault.isFlagged_iff, unflagged]
    rintro ⟨-, flag | ⟨code, given, mem⟩⟩
    · contradiction
    · exact uncoded code given mem

/-- To be wrapped once changes nothing. -/
theorem Wraps.isRetryable_eq (wraps : Wraps f g) : g.isRetryable = f.isRetryable := by
  obtain rfl | ⟨fault, yields, calm, rfl⟩ := wraps.cases_eq
  · rfl
  · rw [Bool.eq_iff_iff, isRetryable, chainVerdict_cons, or_iff_right calm, and_iff_right yields]
    rfl

/-- A failure is transient just when its chain holds a transient fault behind storage faults other
than those of a closed channel. So nothing behind a fault from outside or that of a closed channel
plays any part; a closed channel makes a failure fatal unless a fault in front of it is transient;
and to be wrapped, any number of times, changes nothing. A stack of limited depth gives the same
answer, save that it gives none if as many faults as it has room for leave the decision to their
causes, and more follow. -/
theorem isRetryable_iff (f : Failure) :
    (f.isRetryable = true ↔ ∃ number fault, f.Reaches number fault ∧ fault.IsTransient) ∧
      (∀ (g : Failure) before stop after after', f.chain = before ++ stop :: after →
        g.chain = before ++ stop :: after' → ¬stop.Yields → g.isRetryable = f.isRetryable) ∧
      (∀ before fault after, f.chain = before ++ .storage fault :: after →
        fault.kind.isClosed = true → (∀ earlier ∈ before, ¬earlier.IsTransient) →
        f.isRetryable = false) ∧
      (∀ g, Relation.ReflTransGen Wraps f g → g.isRetryable = f.isRetryable) ∧
      ∀ depth, (∀ answer, f.classify depth = some answer → answer = f.isRetryable) ∧
        (f.classify depth = none ↔ depth < f.chain.length ∧
          ∀ fault ∈ f.chain.take depth, fault.Yields ∧ ¬fault.IsTransient) := by
  refine ⟨chainVerdict_iff f.chain, ?_, ?_, ?_, ?_⟩
  · intro g before stop after after' chain chain' stays
    change chainVerdict g.chain = chainVerdict f.chain
    rw [chain, chain']
    exact chainVerdict_append stays before after' after
  · intro before fault after chain closed calm
    change chainVerdict f.chain = false
    rw [chain, chainVerdict_closed closed, ← Bool.not_eq_true, chainVerdict_iff]
    rintro ⟨number, fault, ⟨found, -⟩, transient⟩
    exact calm fault (List.mem_of_getElem? found) transient
  · intro g wraps
    induction wraps with
    | refl => rfl
    | tail _ wraps ih => rw [wraps.isRetryable_eq, ih]
  · exact fun depth => ⟨fun _ => eq_of_classify, classify_eq_none_iff depth f⟩

/-- A transient answer makes a rejected request transient, whatever caused the answer, but not from
behind a closed channel, and not if there is room for a single call; and to be wrapped twice changes
nothing. A kind declared elsewhere is what it is a special case of, but to come with an answer goes
before a broken connection, and to be a storage fault before both. -/
theorem isRetryable_iff_buried :
    ∃ (rejected lost : StorageFault) (answer gone away : Fault) (deep bare cut : Failure),
      rejected = .raise .general (.text "rejected") (some 404) false ∧
      answer = .external (.raise (.transport .status) [.text "gone"] (some 503)) ∧
      deep = ⟨.storage rejected, [answer, .storage .closed]⟩ ∧ deep.isRetryable = true ∧
      bare = ⟨.storage rejected, [answer]⟩ ∧ bare.isRetryable = deep.isRetryable ∧
      cut = ⟨.storage rejected, [.storage .closed, answer]⟩ ∧ cut.isRetryable = false ∧
      deep.classify 1 = none ∧
      Failure.isRetryable ⟨.storage rejected, ((⟨answer, []⟩ : Failure).wrap "lost").chain⟩ =
        (⟨answer, []⟩ : Failure).isRetryable ∧
      away =
        .external (.raise (.declared "RemoteDisconnected" [.system .connectionReset]) [] none) ∧
      Failure.isRetryable ⟨away, []⟩ = true ∧
      gone = .external (.raise (.declared "ResetError"
        [.transport .status, .system .connectionReset]) [] (some 404)) ∧
      Failure.isRetryable ⟨gone, []⟩ = false ∧
      lost = .raise (.declared "LostError" false [.transport .status, .system .connectionReset])
        (.text "lost") none false ∧
      Failure.isRetryable ⟨.storage lost, [away]⟩ = true ∧
      Failure.isRetryable ⟨.storage lost, []⟩ = false := by
  obtain ⟨rejected, rejected_eq⟩ : ∃ fault : StorageFault,
      fault = .raise .general (.text "rejected") (some 404) false := ⟨_, rfl⟩
  obtain ⟨lost, lost_eq⟩ : ∃ fault : StorageFault, fault = .raise
      (.declared "LostError" false [.transport .status, .system .connectionReset]) (.text "lost")
      none false := ⟨_, rfl⟩
  obtain ⟨answer, answer_eq⟩ : ∃ fault : Fault,
      fault = .external (.raise (.transport .status) [.text "gone"] (some 503)) := ⟨_, rfl⟩
  obtain ⟨gone, gone_eq⟩ : ∃ fault : Fault, fault = .external (.raise (.declared "ResetError"
      [.transport .status, .system .connectionReset]) [] (some 404)) := ⟨_, rfl⟩
  obtain ⟨away, away_eq⟩ : ∃ fault : Fault, fault = .external
      (.raise (.declared "RemoteDisconnected" [.system .connectionReset]) [] none) := ⟨_, rfl⟩
  have yields : Fault.Yields (.storage rejected) := by
    rw [rejected_eq]
    rfl
  have calm : ¬Fault.IsTransient (.storage rejected) := by
    rw [Fault.isTransient_storage_iff, rejected_eq]
    exact fun transient => absurd transient.2 (by decide)
  have transient : answer.IsTransient := by
    rw [answer_eq]
    exact .answered (.known .refl) rfl (by decide)
  have stays : ¬answer.Yields := by
    rw [answer_eq]
    exact not_false
  -- A reset connection is a special case of a broken one, which is listed.
  have dropped : away.IsTransient := by
    rw [away_eq]
    refine .special ?_ (by decide : KnownKind.system .connection ∈ transientKinds)
      (.declared (List.mem_singleton_self _) (.single (by decide)))
    rw [← ExternalKind.isAnswered_iff]
    decide
  refine ⟨rejected, lost, answer, gone, away, _, _, _, rejected_eq, answer_eq, rfl, ?_, rfl, ?_,
    rfl, ?_, ?_, ?_, away_eq, ?_, gone_eq, ?_, lost_eq, ?_, ?_⟩
  · exact (isRetryable_iff _).1.mpr ⟨1, answer, ⟨rfl, by simpa [chain] using yields⟩, transient⟩
  · exact (isRetryable_iff _).2.1 _ [.storage rejected] answer _ _ rfl rfl stays
  · refine (isRetryable_iff _).2.2.1 [.storage rejected] _ _ rfl rfl ?_
    simpa using calm
  · refine ((isRetryable_iff _).2.2.2.2 1).2.mpr ⟨by simp [chain], ?_⟩
    simpa [chain] using ⟨yields, calm⟩
  · refine (isRetryable_iff _).2.2.2.1 _ ((Relation.ReflTransGen.single (.worded _ "lost")).tail ?_)
    refine .caused _ yields (by rw [rejected_eq]; rfl) ?_
    rw [rejected_eq]
    decide
  · exact (isRetryable_iff _).1.mpr ⟨0, away, ⟨rfl, by simp⟩, dropped⟩
  · rw [gone_eq]
    decide
  · refine (isRetryable_iff _).1.mpr ⟨1, away, ⟨rfl, ?_⟩, dropped⟩
    rw [lost_eq]
    simp [chain, Fault.Yields, StorageFault.raise, StorageKind.isClosed]
  · rw [lost_eq]
    decide

end Failure

end ResumableUpload
