import ResumableUpload.Service.History

/-!
# Handles in a history

Everything that is asked of the storage goes to a handle, and a handle is asked for like anything
else. In the history of a service one can see when a handle was refused, when it was granted, and
what went to it.

## Main definitions

* `Refused`, `Granted` — a handle was asked for and refused, or granted.
* `madeBy` — the part of a history that belongs to one options object.
* `Service.handleCalls` — how often a handle was asked for.
* `OneHandle` — a handle is refused until it is granted once, and then it is used.
-/

namespace ResumableUpload

/-- A handle was asked for and refused. -/
def Refused (x : Call × Outcome) : Prop := x.1.request = .handle ∧ x.2.isAccept = false

/-- A handle was asked for and granted. -/
def Granted (x : Call × Outcome) : Prop := x.1.request = .handle ∧ x.2.isAccept = true

instance (x : Call × Outcome) : Decidable (Refused x) := inferInstanceAs (Decidable (_ ∧ _))

instance (x : Call × Outcome) : Decidable (Granted x) := inferInstanceAs (Decidable (_ ∧ _))

/-- The calls that were made with options of the given identity. -/
def madeBy (identity : Nat) (history : List (Call × Outcome)) : List (Call × Outcome) :=
  history.filter fun x => x.1.options.identity = identity

/-- There is nothing but refusals; or a handle is granted after some refusals, and from then on none
is asked for. -/
def OneHandle (history : List (Call × Outcome)) : Prop :=
  (∀ x ∈ history, Refused x) ∨
    ∃ refused first served, history = refused ++ first :: served ∧ (∀ x ∈ refused, Refused x) ∧
      Granted first ∧ ∀ x ∈ served, x.1.request ≠ .handle

/-- How often a handle was asked for with options of the given identity. -/
def Service.handleCalls (identity : Nat) (s : Service) : Nat :=
  s.calls.countP fun call => call.options.identity = identity ∧ call.request = .handle

end ResumableUpload
