import ResumableUpload.Proofs.Text.Percent
import ResumableUpload.SignedUrl

/-!
# The blob of a signed address is valid

Bucket and name are not empty as they stand in the path of a signed address, and what is decoded of
a text that is not empty is not empty.

## Main results

* `SignedUrl.isValid_blob` — the blob of a signed address.
-/

namespace ResumableUpload.SignedUrl

/-- Bucket and name of a path are not empty. -/
theorem target?_ne_nil {path bucket name : List Char} (h : target? path = some (bucket, name)) :
    bucket ≠ [] ∧ name ≠ [] := by
  unfold target? at h
  dsimp only at h
  split at h
  · contradiction
  next filled =>
    simp only [Option.some.injEq, Prod.mk.injEq] at h
    obtain ⟨rfl, rfl⟩ := h
    simpa [not_or] using filled

/-- The blob that a signed address names is valid. -/
theorem isValid_blob {url : String} {b : Blob} (h : blob url = .ok b) : b.IsValid := by
  rw [blob] at h
  split at h
  · contradiction
  next path _ =>
    split at h
    · contradiction
    next bucket name found =>
      obtain ⟨bucket_ne, name_ne⟩ := target?_ne_nil found
      simp only [Except.ok.injEq] at h
      subst h
      exact ⟨by simpa using Text.Percent.decodeChars_ne_nil bucket_ne,
        by simpa using Text.Percent.decodeChars_ne_nil name_ne⟩

end ResumableUpload.SignedUrl
