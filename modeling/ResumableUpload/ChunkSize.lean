import ResumableUpload.Value

/-!
# Chunk sizes

Chunks are uploaded in multiples of 256 KiB, the **chunk unit**. A chunk size is a positive multiple
of it.

## Main definitions

* `ChunkSize` — a positive multiple of the chunk unit; `ChunkSize.default` is 15 MiB.
* `ChunkSize.validate` — the chunk size given by a value, which has to be an integer.
* `ChunkSize.align` — a requested size rounded up to a multiple of the chunk unit.
* `ChunkSize.Fault` — why a value is no chunk size, with its `message`.
* `ChunkSize.Overfull` — more buffered bytes than one chunk holds, with its `message`.
-/

namespace ResumableUpload

/-- The number of bytes of which every chunk size is a multiple: `MIN_CHUNK_SIZE`. -/
def chunkUnit : Nat := 262144

/-- A positive multiple of the chunk unit. -/
structure ChunkSize where
  /-- The number of bytes. -/
  bytes : Nat
  /-- A chunk holds at least one byte. -/
  pos : 0 < bytes
  /-- The chunk unit divides the size. -/
  aligned : bytes % chunkUnit = 0
deriving DecidableEq

namespace ChunkSize

/-- Why a value is not a chunk size. -/
inductive Fault where
  /-- It is not an integer. -/
  | notInteger (typeName : String)
  /-- It is not a positive multiple of the chunk unit. -/
  | notMultiple (n : Int)
deriving DecidableEq, Repr

/-- What is said about the fault. -/
def Fault.message : Fault → String
  | .notInteger typeName => s!"Chunk size must be an integer, got {typeName}"
  | .notMultiple n =>
    showing n s!"Chunk size must be a positive multiple of {chunkUnit} bytes, got {n}"

/-- Whether the value has too many digits to be put into words. -/
def Fault.isUnwritable : Fault → Bool
  | .notInteger _ => false
  | .notMultiple n => tooManyDigits n

/-- The chunk size of an integral number of bytes. -/
def ofInt (n : Int) : Except Fault ChunkSize :=
  if h : 0 < n ∧ n.toNat % chunkUnit = 0 then .ok ⟨n.toNat, by omega, h.2⟩
  else .error (.notMultiple n)

/-- The chunk size given by a value: `validate_chunk_size`. Truth values are no integers here. -/
def validate : Value → Except Fault ChunkSize
  | .int n => ofInt n
  | v => .error (.notInteger v.typeName)

/-- The chunk size used when nothing else is said: `DEFAULT_CHUNK_SIZE`, 60 chunk units. -/
def default : ChunkSize := ⟨60 * chunkUnit, by decide, by decide⟩

instance : Inhabited ChunkSize := ⟨default⟩

/-- A valid size is accepted unchanged. -/
@[simp] theorem ofInt_bytes (c : ChunkSize) : ofInt c.bytes = .ok c := by
  have h : 0 < c.bytes ∧ c.bytes % chunkUnit = 0 := ⟨c.pos, c.aligned⟩
  simp [ofInt, h]

/-- More buffered bytes than one chunk holds. -/
structure Overfull where
  /-- The number of buffered bytes. -/
  buffered : Nat
  /-- The bytes that a chunk holds. -/
  limit : Nat
deriving DecidableEq, Repr

/-- What is said about too many buffered bytes. -/
def Overfull.message (f : Overfull) : String :=
  s!"Buffered bytes ({f.buffered}) must not exceed the chunk size ({f.limit})"

/-! ### Rounding up -/

/-- A requested size that is not positive. -/
inductive NotPositive where
  /-- An integer. -/
  | size (n : Int)
  /-- The truth value that counts as zero. -/
  | untrue
deriving DecidableEq, Repr

/-- What is said about a size that is not positive. -/
def NotPositive.message : NotPositive → String
  | .size n => showing n s!"Chunk size must be positive, got {n}"
  | .untrue => s!"Chunk size must be positive, got {Value.boolText false}"

/-- A positive size rounded up to a multiple of the chunk unit: `align_chunk_size`. Rounding the
quotient of the negated size down rounds that of the size up. -/
def align (size : Int) : Except NotPositive Int :=
  if size ≤ 0 then .error (.size size)
  else .ok (-(-size / chunkUnit) * chunkUnit)

/-- The same for a size given as a truth value, which counts as 0 or 1. -/
def alignTruth (size : Bool) : Except NotPositive Int :=
  if size then align 1 else .error .untrue

end ChunkSize

end ResumableUpload
