import ResumableUpload.Proofs.Service.History
import ResumableUpload.Proofs.Service.Outlook
import ResumableUpload.Service.Handles

/-!
# How handles come about

Whoever makes requests with some options asks for a handle first. `Service.Asks` says all there is
to say about such a row of requests: the calls and their outcomes, what becomes of the handles of
all options, and that the row ends with a refused handle. It composes along a run.

## Main definitions

* `HandleCourse` — how a handle fares in a history.
* `Service.Asks` — a row of requests with the same options.

## Main results

* `HandleCourse.spec` — before a handle is granted there are refusals only, afterwards none.
* `Service.requestHandle_cases`, `Service.asks_requestHandle` — making sure that there is a handle.
* `Service.asks_upload` — what is asked of a handle.
-/

namespace ResumableUpload

/-! ### The course of a handle -/

/-- How the handle of one identity fares in a history, from whether it exists before to whether it
exists afterwards: while it does not, it is only asked for; once it does, only other things are. -/
inductive HandleCourse (identity : Nat) : Bool → List (Call × Outcome) → Bool → Prop
  /-- Nothing is asked. -/
  | nil {known : Bool} : HandleCourse identity known [] known
  /-- Something is asked with other options. -/
  | foreign {x : Call × Outcome} {history : List (Call × Outcome)} {known known' : Bool}
      (other : x.1.options.identity ≠ identity)
      (rest : HandleCourse identity known history known') :
      HandleCourse identity known (x :: history) known'
  /-- The handle is refused. -/
  | refused {x : Call × Outcome} {history : List (Call × Outcome)} {known' : Bool}
      (own : x.1.options.identity = identity) (refused : Refused x)
      (rest : HandleCourse identity false history known') :
      HandleCourse identity false (x :: history) known'
  /-- The handle is granted. -/
  | granted {x : Call × Outcome} {history : List (Call × Outcome)} {known' : Bool}
      (own : x.1.options.identity = identity) (granted : Granted x)
      (rest : HandleCourse identity true history known') :
      HandleCourse identity false (x :: history) known'
  /-- The handle is used. -/
  | served {x : Call × Outcome} {history : List (Call × Outcome)} {known' : Bool}
      (own : x.1.options.identity = identity) (other : x.1.request ≠ .handle)
      (rest : HandleCourse identity true history known') :
      HandleCourse identity true (x :: history) known'

/-- Calls with other options are not among those of an identity. -/
theorem madeBy_cons_of_ne {identity : Nat} {x : Call × Outcome}
    (other : x.1.options.identity ≠ identity) (history : List (Call × Outcome)) :
    madeBy identity (x :: history) = madeBy identity history := by
  rw [madeBy, List.filter_cons_of_neg (by simpa using other), madeBy]

/-- Calls with options of an identity are among its calls. -/
theorem madeBy_cons_of_eq {identity : Nat} {x : Call × Outcome}
    (own : x.1.options.identity = identity) (history : List (Call × Outcome)) :
    madeBy identity (x :: history) = x :: madeBy identity history := by
  rw [madeBy, List.filter_cons_of_pos (by simpa using own), madeBy]

/-- A refusal is no grant. -/
theorem Refused.not_granted {x : Call × Outcome} (refused : Refused x) : ¬Granted x := by
  rintro ⟨-, accepted⟩
  rw [refused.2] at accepted
  contradiction

namespace HandleCourse

variable {identity : Nat} {known known' known'' : Bool} {first second : List (Call × Outcome)}

/-- A handle fares on from where it got. -/
theorem trans (h₁ : HandleCourse identity known first known')
    (h₂ : HandleCourse identity known' second known'') :
    HandleCourse identity known (first ++ second) known'' := by
  induction h₁ with
  | nil => exact h₂
  | foreign other _ ih => exact .foreign other (ih h₂)
  | refused own refused _ ih => exact .refused own refused (ih h₂)
  | granted own granted _ ih => exact .granted own granted (ih h₂)
  | served own other _ ih => exact .served own other (ih h₂)

/-- A handle that exists goes on existing and is not asked for. Before, it is refused until it is
granted, which it is just when it exists afterwards. -/
theorem spec (h : HandleCourse identity known first known') :
    (known = true → known' = true ∧ ∀ x ∈ madeBy identity first, x.1.request ≠ .handle) ∧
      (known = false → OneHandle (madeBy identity first) ∧
        (known' = true ↔ ∃ x ∈ madeBy identity first, Granted x)) := by
  induction h with
  | @nil known =>
    have nothing : madeBy identity [] = [] := rfl
    refine ⟨fun known => ⟨known, by simp [nothing]⟩, fun unknown => ?_⟩
    rw [nothing, unknown]
    exact ⟨.inl (by simp), by simp⟩
  | foreign other _ ih =>
    rw [madeBy_cons_of_ne other]
    exact ih
  | @refused x history known' own refused _ ih =>
    obtain ⟨one, exists_iff⟩ := ih.2 rfl
    refine ⟨fun known => absurd known Bool.false_ne_true, fun _ => ?_⟩
    rw [madeBy_cons_of_eq own, exists_iff]
    constructor
    · obtain all | ⟨before, first, after, eq, all, granted, served⟩ := one
      · exact .inl (List.forall_mem_cons.mpr ⟨refused, all⟩)
      · rw [eq]
        exact .inr ⟨x :: before, first, after, rfl, List.forall_mem_cons.mpr ⟨refused, all⟩,
          granted, served⟩
    · simp only [List.mem_cons, exists_eq_or_imp, refused.not_granted, false_or]
  | @granted x history known' own granted _ ih =>
    obtain ⟨rfl, served⟩ := ih.1 rfl
    refine ⟨fun known => absurd known Bool.false_ne_true, fun _ => ?_⟩
    rw [madeBy_cons_of_eq own]
    refine ⟨.inr ⟨[], x, _, rfl, by simp, granted, served⟩, fun _ => ?_, fun _ => rfl⟩
    exact ⟨x, List.mem_cons_self, granted⟩
  | served own other _ ih =>
    obtain ⟨rfl, served⟩ := ih.1 rfl
    refine ⟨fun _ => ⟨rfl, ?_⟩, fun unknown => absurd unknown.symm Bool.false_ne_true⟩
    rw [madeBy_cons_of_eq own]
    exact List.forall_mem_cons.mpr ⟨other, served⟩

/-- What is asked of a handle that exists leaves it as it is. -/
theorem of_served {o : ServiceOptions} (there : o.identity = identity → known = true)
    (served : ∀ x ∈ first, x.1.options = o ∧ x.1.request ≠ .handle) :
    HandleCourse identity known first known := by
  induction first with
  | nil => exact .nil
  | cons x history ih =>
    obtain ⟨⟨options, other⟩, later⟩ := List.forall_mem_cons.mp served
    by_cases own : o.identity = identity
    · obtain rfl := there own
      exact .served (by rw [options, own]) other (ih later)
    · exact .foreign (by rw [options]; exact own) (ih later)

end HandleCourse

namespace Service

variable {o : ServiceOptions} {fails fails' : Failure → Prop} {s s₁ s' : Service}

/-! ### Rows of requests with the same options -/

/-- Between the two states exactly these calls are made, all with the given options; every handle
fares as it should, and when one is refused it is with this failure that everything ends. -/
structure Asks (o : ServiceOptions) (s : Service) (history : List (Call × Outcome))
    (fails : Failure → Prop) (s' : Service) : Prop where
  /-- These are the calls, and their outcomes. -/
  makes : s.Makes history s'
  /-- What becomes of handles. -/
  course : ∀ i, HandleCourse i (s.handles.contains i) history (s'.handles.contains i)
  /-- All calls are made with the same options. -/
  own : ∀ x ∈ history, x.1.options = o
  /-- A refusal is the end. -/
  refused : ∀ f, ((⟨o, .handle⟩, .fail f) : Call × Outcome) ∈ history → fails f

/-- Nothing may be asked. -/
theorem Asks.refl (o : ServiceOptions) (fails : Failure → Prop) (s : Service) :
    s.Asks o [] fails s :=
  ⟨.refl s, fun _ => .nil, by simp, by simp⟩

/-- The end may be told in another way. -/
theorem Asks.mono {history : List (Call × Outcome)} (h : s.Asks o history fails s')
    (weaken : ∀ f, fails f → fails' f) : s.Asks o history fails' s' :=
  ⟨h.makes, h.course, h.own, fun f mem => weaken f (h.refused f mem)⟩

/-- After what did not fail more can be asked. -/
theorem Asks.trans {first second : List (Call × Outcome)} (h₁ : s.Asks o first fails s₁)
    (succeeds : ∀ f, ¬fails f) (h₂ : s₁.Asks o second fails' s') :
    s.Asks o (first ++ second) fails' s' where
  makes := h₁.makes.trans h₂.makes
  course i := (h₁.course i).trans (h₂.course i)
  own := List.forall_mem_append.mpr ⟨h₁.own, h₂.own⟩
  refused f mem := by
    rcases List.mem_append.mp mem with mem | mem
    · exact absurd (h₁.refused f mem) (succeeds f)
    · exact h₂.refused f mem

/-- Events and the number of sessions are not asked for. -/
theorem Asks.of_record {history : List (Call × Outcome)} (h : s.Asks o history fails s₁)
    (calls : s'.calls = s₁.calls) (scripts : s'.SameScripts s₁)
    (handles : s'.handles = s₁.handles) : s.Asks o history fails s' :=
  ⟨h.makes.of_record calls scripts, fun i => by rw [handles]; exact h.course i, h.own, h.refused⟩

/-- What is asked of a handle that exists. -/
theorem Asks.of_served {history : List (Call × Outcome)} (known : s.HasHandle o)
    (makes : s.Makes history s') (handles : s'.handles = s.handles)
    (served : ∀ x ∈ history, x.1.options = o ∧ x.1.request ≠ .handle) :
    s.Asks o history fails s' where
  makes := makes
  course i := by
    rw [handles]
    exact .of_served (fun own => own ▸ known) served
  own x mem := (served x mem).1
  refused f mem := absurd rfl (served _ mem).2

/-! ### Handles -/

/-- What is done to have a handle: nothing if it exists; or else it is asked for, and refused or
granted. -/
theorem requestHandle_cases (o : ServiceOptions) (s : Service) :
    (s.HasHandle o ∧ requestHandle o s = (.ok (), s)) ∨
      (¬s.HasHandle o ∧ ∃ f s₁, requestHandle o s = (.error f, s₁) ∧
        s.Makes [(⟨o, .handle⟩, .fail f)] s₁ ∧ s₁.handles = s.handles) ∨
      (¬s.HasHandle o ∧ ∃ reply s₁, requestHandle o s = (.ok (), s₁) ∧
        s.Makes [(⟨o, .handle⟩, .accept reply)] s₁ ∧
        s₁.handles = o.identity :: s.handles) := by
  by_cases known : s.HasHandle o
  · exact .inl ⟨known, requestHandle_of_hasHandle known⟩
  · have noted : s.Makes [] (s.note (.creatingHandle o.projectId)) :=
      (Makes.refl s).of_record rfl (.refl s)
    have makes := noted.trans (makes_ask o .handle (s.note (.creatingHandle o.projectId)))
    have handles : (ask o .handle (s.note (.creatingHandle o.projectId))).2.handles = s.handles :=
      rfl
    rw [requestHandle, if_neg (by exact known)]
    cases asked : ask o .handle (s.note (.creatingHandle o.projectId)) with
    | mk outcome s₁ =>
      rw [asked] at makes handles
      cases outcome with
      | fail f => exact .inr (.inl ⟨known, f, s₁, rfl, makes, handles⟩)
      | accept reply =>
        refine .inr (.inr ⟨known, reply, _, rfl, makes.of_record rfl (.refl s₁), ?_⟩)
        exact congrArg (o.identity :: ·) handles

/-- Where a handle exists already, or is asked for, this is all that is asked. -/
theorem asks_requestHandle (o : ServiceOptions) (s : Service) :
    ∃ history, s.Asks o history (fun f => (requestHandle o s).1 = .error f) (requestHandle o s).2 ∧
      ∀ f, (requestHandle o s).1 = .error f → history = [(⟨o, .handle⟩, .fail f)] := by
  obtain ⟨-, eq⟩ | ⟨unknown, f, s₁, eq, makes, handles⟩ |
    ⟨unknown, reply, s₁, eq, makes, handles⟩ := requestHandle_cases o s
  · rw [eq]
    exact ⟨[], .refl o _ s, by simp⟩
  · rw [eq]
    refine ⟨_, ⟨makes, fun i => ?_, by simp, by simp⟩, by simp⟩
    rw [handles]
    by_cases own : o.identity = i
    · have missing : s.handles.contains i = false := by
        rw [← own]
        exact Bool.eq_false_iff.mpr unknown
      rw [missing]
      exact .refused own ⟨rfl, rfl⟩ .nil
    · exact .foreign own .nil
  · rw [eq]
    refine ⟨_, ⟨makes, fun i => ?_, by simp, by simp⟩, by simp⟩
    rw [handles, List.contains_cons]
    by_cases own : o.identity = i
    · have missing : s.handles.contains i = false := by
        rw [← own]
        exact Bool.eq_false_iff.mpr unknown
      rw [missing, own, beq_self_eq_true, Bool.true_or]
      exact .granted own ⟨rfl, rfl⟩ .nil
    · have other : (i == o.identity) = false := by simpa using fun same => own same.symm
      rw [other, Bool.false_or]
      exact .foreign own .nil

/-! ### What is asked of a handle -/

/-- A chunk is one call. -/
theorem asks_upload (fails : Failure → Prop) (known : s.HasHandle o) (t : Transmission) :
    s.Asks o [(⟨o, .upload t⟩, (ask o (.upload t) s).1)] fails (upload o t s).2 := by
  rw [upload_eq]
  exact .of_served known (makes_ask o (.upload t) s) rfl (by simp)

end Service

end ResumableUpload
