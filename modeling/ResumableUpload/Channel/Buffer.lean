import ResumableUpload.Bytes
import ResumableUpload.Number.Power

/-!
# The buffer of one chunk

A channel collects the bytes of the next chunk in a buffer. Storage for a whole chunk is
**allocated** before the first byte is taken, and stays until it is released; emptying the buffer
keeps it, so that stale bytes stand behind those in use. A valid chunk size may be so large that
there is no such storage: which sizes can be had depends on the machine.

## Main definitions

* `ChunkBuffer` — the buffer: its storage, and how many bytes of it are in use.
* `ChunkBuffer.contents` — the bytes in use.
* `Memory` — the sizes of storage that a machine has to offer.
* `Shortage` — why storage of some size cannot be allocated.
* `ChunkBuffer.allocate` — the buffer with storage.
* `ChunkBuffer.take`, `ChunkBuffer.clear`, `ChunkBuffer.released` — more bytes, no bytes, no
  storage.
* `ChunkBuffer.Fits` — what holds of the buffer of a channel: its storage has room for one chunk.
-/

namespace ResumableUpload

/-- The buffer of one chunk. -/
structure ChunkBuffer where
  /-- The storage, if it is allocated. -/
  storage : Option ByteArray := none
  /-- How many bytes of the storage are in use, from its beginning on. -/
  limit : Nat := 0
deriving DecidableEq, Inhabited

/-- What a machine has to offer: storage for a single buffer can be had in some sizes, and in others
not. Everything about channels holds on every machine. -/
class Memory where
  /-- Whether storage of so many bytes can be had. -/
  available : Nat → Bool

/-- A machine that has storage of any size below 16 GiB to offer. Channels run on it where nothing
is said about the machine. -/
instance (priority := low) Memory.standard : Memory := ⟨fun size => size < twoTo 34⟩

/-- Why storage cannot be allocated. -/
inductive Shortage where
  /-- The size cannot even be counted by addresses. -/
  | addresses
  /-- There is not so much memory. -/
  | memory
deriving DecidableEq, Repr

namespace Shortage

/-- The size that addresses, which are signed and of 64 bits, do not reach. -/
def addressLimit : Nat := twoTo 63

/-- What prevents storage of the given size. -/
def ofSize? [Memory] (size : Nat) : Option Shortage :=
  if addressLimit ≤ size then some .addresses
  else if Memory.available size then none
  else some .memory

/-- Sizes that addresses do not reach cannot be had on any machine. -/
theorem ofSize?_of_addressLimit_le [Memory] {size : Nat} (le : addressLimit ≤ size) :
    ofSize? size = some .addresses := if_pos le

end Shortage

namespace ChunkBuffer

/-- The bytes in use: `_buffered_copy`. -/
def contents (b : ChunkBuffer) : ByteArray :=
  match b.storage with
  | none => .empty
  | some bytes => bytes.extract 0 b.limit

/-- As many zeros as asked for, which is what fresh storage holds. -/
def zeros (size : Nat) : ByteArray :=
  if size = 0 then .empty
  else
    let half := zeros (size / 2)
    if size % 2 = 0 then half ++ half else (half ++ half).push 0
termination_by size

/-- The buffer with storage, which is allocated with the given size if there is none:
`_ensure_buffer`. -/
def allocate [Memory] (size : Nat) (b : ChunkBuffer) : Except Shortage ChunkBuffer :=
  match b.storage with
  | some _ => .ok b
  | none =>
    match Shortage.ofSize? size with
    | some shortage => .error shortage
    | none => .ok ⟨some (zeros size), b.limit⟩

/-- Storage with the `count` bytes from `start` on replaced by a piece. Storage keeps its size if
the piece is as long as what it replaces. -/
def replace (bytes : ByteArray) (start count : Nat) (piece : ByteArray) : ByteArray :=
  bytes.extract 0 start ++ piece ++ bytes.extract (start + count) bytes.size

/-- The buffer with `count` more bytes, which stand in `data` from `offset` on. -/
def take (data : ByteArray) (offset count : Nat) (b : ChunkBuffer) : ChunkBuffer :=
  ⟨b.storage.map fun bytes => replace bytes b.limit count (data.extract offset (offset + count)),
    b.limit + count⟩

/-- The buffer with the same storage and nothing in use. -/
def clear (b : ChunkBuffer) : ChunkBuffer := ⟨b.storage, 0⟩

/-- The buffer without storage. -/
def released : ChunkBuffer := ⟨none, 0⟩

/-- A cleared buffer holds no bytes. -/
@[simp] theorem contents_clear (b : ChunkBuffer) : b.clear.contents = .empty := by
  cases h : b.storage with
  | none => simp [clear, contents, h]
  | some bytes => simp [clear, contents, h]

/-- A buffer without storage has nothing in use. -/
@[simp] theorem limit_released : released.limit = 0 := rfl

/-- A buffer without storage holds no bytes. -/
@[simp] theorem contents_released : released.contents = .empty := rfl

/-- Fresh storage has the size asked for. -/
@[simp] theorem size_zeros (size : Nat) : (zeros size).size = size := by
  fun_induction zeros size with
  | case1 => rfl
  | case2 size size_ne half even ih =>
    rw [ByteArray.size_append, ih]
    omega
  | case3 size size_ne half odd ih =>
    rw [ByteArray.size_push, ByteArray.size_append, ih]
    omega

/-- Replacing bytes by as many others keeps the size of the storage. -/
theorem size_replace {bytes piece : ByteArray} {start count : Nat}
    (fits : start + count ≤ bytes.size) (size_piece : piece.size = count) :
    (replace bytes start count piece).size = bytes.size := by
  simp only [replace, ByteArray.size_append, ByteArray.size_extract, size_piece]
  omega

/-! ### Room for one chunk -/

variable [Memory]

/-- What holds of the buffer of a channel with chunks of the given size: it has no storage and
nothing in use, or storage for exactly one chunk. -/
inductive Fits (size : Nat) : ChunkBuffer → Prop
  /-- There is no storage. -/
  | released : Fits size released
  /-- There is storage for one chunk, which could be allocated. -/
  | allocated {bytes : ByteArray} {limit : Nat} (size_eq : bytes.size = size)
      (limit_le : limit ≤ size) (available : Shortage.ofSize? size = none) :
      Fits size ⟨some bytes, limit⟩

/-- The number of bytes held is the number in use. -/
theorem Fits.size_contents {size : Nat} {b : ChunkBuffer} (fits : b.Fits size) :
    b.contents.size = b.limit := by
  cases fits with
  | released => rfl
  | allocated size_eq limit_le _ =>
    simp only [contents, ByteArray.size_extract, size_eq]
    omega

/-- No more bytes are in use than one chunk has. -/
theorem Fits.limit_le {size : Nat} {b : ChunkBuffer} (fits : b.Fits size) : b.limit ≤ size := by
  cases fits with
  | released => exact Nat.zero_le _
  | allocated _ limit_le _ => exact limit_le

/-- A buffer with storage could be allocated. -/
theorem Fits.released_or_available {size : Nat} {b : ChunkBuffer} (fits : b.Fits size) :
    b = .released ∨ Shortage.ofSize? size = none := by
  cases fits with
  | released => exact .inl rfl
  | allocated _ _ available => exact .inr available

/-- Emptying the buffer leaves room for one chunk. -/
theorem Fits.clear {size : Nat} {b : ChunkBuffer} (fits : b.Fits size) : b.clear.Fits size := by
  cases fits with
  | released => exact .released
  | allocated size_eq _ available => exact .allocated size_eq (Nat.zero_le _) available

/-- Allocation makes sure that there is storage, and nothing more is in use. -/
theorem allocate_eq_ok {size : Nat} {b b' : ChunkBuffer} (h : b.allocate size = .ok b') :
    b'.limit = b.limit ∧ ∃ bytes, b'.storage = some bytes := by
  rw [allocate] at h
  split at h
  next bytes storage =>
    simp only [Except.ok.injEq] at h
    subst h
    exact ⟨rfl, bytes, storage⟩
  next =>
    split at h
    · contradiction
    · simp only [Except.ok.injEq] at h
      subst h
      exact ⟨rfl, _, rfl⟩

/-- What allocation changes: afterwards there is storage, and it holds the same bytes. -/
theorem Fits.of_allocate {size : Nat} {b b' : ChunkBuffer} (fits : b.Fits size)
    (h : b.allocate size = .ok b') :
    b'.Fits size ∧ b'.storage ≠ none ∧ b'.limit = b.limit ∧ b'.contents = b.contents := by
  cases fits with
  | released =>
    simp only [allocate, ChunkBuffer.released] at h
    cases shortage : Shortage.ofSize? size with
    | some _ => simp [shortage] at h
    | none =>
      simp only [shortage, Except.ok.injEq] at h
      subst h
      exact ⟨.allocated (size_zeros size) (Nat.zero_le _) shortage, by simp, rfl,
        ByteArray.extract_same⟩
  | allocated size_eq limit_le available =>
    simp only [allocate, Except.ok.injEq] at h
    subst h
    exact ⟨.allocated size_eq limit_le available, by simp, rfl, rfl⟩

/-- Allocation fails only for want of storage, and just when the size cannot be had. -/
theorem Fits.allocate_eq_error {size : Nat} {b : ChunkBuffer} (fits : b.Fits size)
    {shortage : Shortage} (h : b.allocate size = .error shortage) :
    b = .released ∧ Shortage.ofSize? size = some shortage := by
  cases fits with
  | released =>
    simp only [allocate, ChunkBuffer.released] at h
    cases found : Shortage.ofSize? size with
    | none => simp [found] at h
    | some _ =>
      simp only [found, Except.error.injEq] at h
      exact ⟨rfl, by rw [h]⟩
  | allocated _ _ _ => simp [allocate] at h

/-- Whether allocation succeeds depends on the size alone, not on whether there is storage. -/
theorem Fits.allocate_cases {size : Nat} {b : ChunkBuffer} (fits : b.Fits size) :
    (∃ shortage, Shortage.ofSize? size = some shortage ∧ b.allocate size = .error shortage) ∨
      (Shortage.ofSize? size = none ∧ ∃ b', b.allocate size = .ok b') := by
  cases fits with
  | released =>
    cases found : Shortage.ofSize? size with
    | none =>
      refine .inr ⟨rfl, ⟨some (zeros size), 0⟩, ?_⟩
      simp only [allocate, ChunkBuffer.released, found]
    | some shortage =>
      refine .inl ⟨shortage, rfl, ?_⟩
      simp only [allocate, ChunkBuffer.released, found]
  | allocated _ _ available =>
    exact .inr ⟨available, _, rfl⟩

/-- Bytes that are there and that fit are taken behind those in use; the size of the storage stays.
-/
theorem Fits.take {size : Nat} {b : ChunkBuffer} (fits : b.Fits size) (storage : b.storage ≠ none)
    {data : ByteArray} {offset count : Nat} (room : b.limit + count ≤ size)
    (given : offset + count ≤ data.size) :
    (b.take data offset count).Fits size ∧
      (b.take data offset count).contents = b.contents ++ data.extract offset (offset + count) := by
  cases fits with
  | released => exact absurd rfl storage
  | @allocated bytes limit size_eq _ available =>
    change limit + count ≤ size at room
    have size_piece : (data.extract offset (offset + count)).size = count := by
      rw [ByteArray.size_extract]
      omega
    have size_front : (bytes.extract 0 limit ++ data.extract offset (offset + count)).size =
        limit + count := by
      rw [ByteArray.size_append, size_piece, ByteArray.size_extract]
      omega
    constructor
    · have kept : (replace bytes limit count _).size = bytes.size :=
        size_replace (by omega) size_piece
      exact .allocated (kept.trans size_eq) room available
    · exact ByteArray.extract_append_eq_left size_front.symm

end ChunkBuffer

end ResumableUpload
