import ResumableUpload.Failure.Basic
import ResumableUpload.Validation

/-!
# Problems

An operation that reads values and also reaches the storage can go wrong in two ways.

## Main definitions

* `Problem` — invalid values, or a failure.
-/

namespace ResumableUpload

/-- Why an operation did not succeed. -/
inductive Problem where
  /-- Values break rules. -/
  | invalid (report : Report)
  /-- Something failed. -/
  | failure (failure : Failure)
deriving DecidableEq, Repr

end ResumableUpload
