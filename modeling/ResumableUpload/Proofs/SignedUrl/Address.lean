import ResumableUpload.Proofs.SignedUrl
import ResumableUpload.Proofs.Url.Split

/-!
# The object that an address names

What is written into the path of an address with escapes is read back as bucket and name, and the
first slash that is not escaped divides them. The name is not always the whole rest of the path: it
ends where parameters begin.

## Main results

* `SignedUrl.blob_address` — the blob of an address.
* `SignedUrl.blob_of_writes` — the bucket and the name that were written.
* `SignedUrl.blob_of_namesObject` — bucket and name for every path, and when the name is all of it.
-/

namespace ResumableUpload.SignedUrl

open Text (Letter)
open Text.Percent Url

variable {host bucket name : String}

/-! ### Dividing the path -/

/-- A path is divided at the first slash between its bucket and its name. -/
theorem target?_of_segments {bucket : List Char} (ne : bucket ≠ []) (segment : '/' ∉ bucket)
    (name : List Char) :
    target? ('/' :: (bucket ++ '/' :: name)) = if name = [] then none else some (bucket, name) := by
  have absent : '/' ∉ bucket.map Letter.char := by rwa [Text.map_letter]
  have led : ('/' :: (bucket ++ '/' :: name)).dropWhile (Letter.char · = '/') =
      bucket ++ '/' :: name := by
    obtain ⟨c, cs, rfl⟩ := List.exists_cons_of_ne_nil ne
    have other : c ≠ '/' := fun same => segment (same ▸ List.mem_cons_self)
    simp [other]
  have first : (bucket ++ '/' :: name).takeWhile (Letter.char · ≠ '/') = bucket := by
    rw [takeWhile_ne absent]
    simp
  have second : ((bucket ++ '/' :: name).dropWhile (Letter.char · ≠ '/')).drop 1 = name := by
    rw [dropWhile_ne absent]
    simp
  rw [target?, led, first, second]
  cases name <;> simp [ne]

/-! ### What a path may hold -/

/-- Unescaped characters of a path are ASCII and begin no escape. -/
theorem ascii_of_isPathChar {c : Char} (h : isPathChar c = true) : c.toNat < 128 ∧ c ≠ '%' := by
  simp only [isPathChar, isSegmentChar, Bool.or_eq_true, List.contains_iff_mem,
    decide_eq_true_eq] at h
  rcases h with (unreserved | reserved) | rfl
  · exact Text.ascii_of_isUnreserved unreserved
  · have all : reservedInSegment.all (fun d => d.toNat < 128 && d ≠ '%') = true := rfl
    simpa using List.all_eq_true.mp all c reserved
  · decide

/-- Characters of a segment are characters of a path. -/
theorem isPathChar_of_isSegmentChar {c : Char} (h : isSegmentChar c = true) :
    isPathChar c = true := by
  rw [isPathChar, h, Bool.true_or]

/-- A segment holds no slash. -/
theorem slash_notMem {bytes : List UInt8} {written : List Char}
    (writes : Writes isSegmentChar bytes written) : '/' ∉ written :=
  writes.notMem rfl (by decide) rfl

/-- Nothing in a path ends it or is dropped. -/
theorem notMem_of_writes {bytes : List UInt8} {written : List Char}
    (writes : Writes isPathChar bytes written) :
    ∀ c ∈ written, c ∉ ['?', '#', '\t', '\n', '\r'] := by
  intro c member ends
  simp only [List.mem_cons, List.not_mem_nil, or_false] at ends
  rcases ends with rfl | rfl | rfl | rfl | rfl
  all_goals exact writes.notMem rfl (by decide) rfl member

/-! ### The blob of an address -/

/-- The blob of an address: the bucket, and what of the name comes before its parameters. -/
theorem blob_address (plain : ∀ c ∈ host.toList, isHostChar c = true)
    (names : NamesObject bucket name) {kept : List Char}
    (without : WithoutParameters name.toList kept) (query : String) :
    blob (address host bucket name query) =
      if kept = [] then .error (.noObject (Text.quote (address host bucket name query)))
      else .ok ⟨decode bucket, String.ofList (decodeChars kept), none, none⟩ := by
  obtain ⟨bucketBytes, bucketWritten⟩ := names.bucket_wellFormed
  obtain ⟨nameBytes, nameWritten⟩ := names.name_wellFormed
  have bucket_ne : bucket.toList ≠ [] := by simpa using names.bucket_ne
  have inPath : ∀ c ∈ bucket.toList ++ '/' :: name.toList, c ∉ ['?', '#', '\t', '\n', '\r'] := by
    intro c member
    rcases List.mem_append.mp member with member | member
    · exact notMem_of_writes (bucketWritten.mono fun _ => isPathChar_of_isSegmentChar) c member
    · rcases List.mem_cons.mp member with rfl | member
      · decide
      · exact notMem_of_writes nameWritten c member
  have letters : (address host bucket name query).toList = "https://".toList ++
      (host.toList ++ '/' :: ((bucket.toList ++ '/' :: name.toList) ++ '?' :: query.toList)) := by
    simp [address]
  have path : Url.path (address host bucket name query).toList =
      .ok ('/' :: (bucket.toList ++ '/' :: kept)) := by
    rw [letters, path_of_host plain inPath, ← List.cons_append, cutParameters_eq without]
    rfl
  rw [blob, path]
  dsimp only
  rw [target?_of_segments bucket_ne (slash_notMem bucketWritten)]
  by_cases empty : kept = []
  · simp only [if_pos empty]
  · simp only [if_neg empty, decode]

/-! ### Written texts -/

/-- Bucket and name are read back from an address into which they were written in UTF-8, whatever
is escaped beyond need and whatever the query holds. -/
theorem blob_of_writes {writtenBucket writtenName : String}
    (plain : ∀ c ∈ host.toList, isHostChar c = true) (bucket_ne : bucket ≠ "") (name_ne : name ≠ "")
    (bucketWritten : Writes Text.isUnreserved bucket.toUTF8.data.toList writtenBucket.toList)
    (nameWritten : Writes (fun c => Text.isUnreserved c || c = '/') name.toUTF8.data.toList
      writtenName.toList)
    (query : String) :
    blob (address host writtenBucket writtenName query) = .ok ⟨bucket, name, none, none⟩ := by
  have bucketPlain : ∀ c, Text.isUnreserved c = true → isSegmentChar c = true := by
    intro c unreserved
    rw [isSegmentChar, unreserved, Bool.true_or]
  have namePlain : ∀ c, (Text.isUnreserved c || c = '/') = true → isPathChar c = true := by
    intro c unreserved
    rcases Bool.or_eq_true_iff.mp unreserved with unreserved | slash
    · exact isPathChar_of_isSegmentChar (bucketPlain c unreserved)
    · rw [isPathChar, slash, Bool.or_true]
  have bucketRead := decodeChars_toUTF8 bucketWritten fun _ => Text.ascii_of_isUnreserved
  have nameRead := decodeChars_toUTF8 nameWritten fun c h => ascii_of_isPathChar (namePlain c h)
  have bucketWritten_ne : writtenBucket ≠ "" := by
    rintro rfl
    exact bucket_ne (String.toList_inj.mp bucketRead.symm)
  have nameWritten_ne : writtenName ≠ "" := by
    rintro rfl
    exact name_ne (String.toList_inj.mp nameRead.symm)
  have names : NamesObject writtenBucket writtenName :=
    ⟨bucketWritten_ne, nameWritten_ne, ⟨_, bucketWritten.mono bucketPlain⟩,
      ⟨_, nameWritten.mono namePlain⟩⟩
  have semicolon : ';' ∉ writtenName.toList := nameWritten.notMem rfl (by decide) rfl
  have noParameters : ¬CarriesParameters writtenName.toList := by
    rintro ⟨before, after, eq, -⟩
    rw [eq] at semicolon
    exact semicolon (List.mem_append_right before List.mem_cons_self)
  have filled : writtenName.toList ≠ [] := by simpa using nameWritten_ne
  rw [blob_address plain names (.whole noParameters), if_neg filled, decode, bucketRead, nameRead,
    String.ofList_toList, String.ofList_toList]

/-- A bucket with an escaped slash, a name that begins with one, and a query that begins nothing
else. -/
theorem blob_of_writes_slashes :
    blob "https://storage.example-1.com/a%2F%C3%A9//b%20c/%c3%bc?x=?#;v/\n" =
      .ok ⟨"a/é", "/b c/ü", none, none⟩ := by
  have upper : ∀ n < 16, Text.IsHexDigit n (Text.upperHexDigit n) := fun _ _ => .inr rfl
  have lower : ∀ n < 16, Text.IsHexDigit n (Text.hexDigit n) := fun _ _ => .inl rfl
  have bucket := writes_encode upper Text.isUnreserved "a/é"
  have name := writes_encode lower (fun c => Text.isUnreserved c || c = '/') "/b c/ü"
  have bucketText : encode Text.upperHexDigit Text.isUnreserved "a/é" = "a%2F%C3%A9" := by
    decide +kernel
  have nameText : encode Text.hexDigit (fun c => Text.isUnreserved c || c = '/') "/b c/ü" =
      "/b%20c/%c3%bc" := by
    decide +kernel
  rw [bucketText] at bucket
  rw [nameText] at name
  have plain : ∀ c ∈ "storage.example-1.com".toList, isHostChar c = true :=
    List.all_eq_true.mp (by decide +kernel)
  have found := blob_of_writes plain (by decide) (by decide) bucket name "x=?#;v/\n"
  exact found

/-! ### Any path -/

/-- A name that carries parameters stands for more than what comes before them. -/
theorem decodeChars_ne_of_carries (names : NamesObject bucket name)
    (carries : CarriesParameters name.toList) {kept : List Char}
    (without : WithoutParameters name.toList kept) :
    decodeChars kept ≠ decodeChars name.toList := by
  obtain ⟨nameBytes, written⟩ := names.name_wellFormed
  generalize name.toList = path at carries without written
  cases without with
  | whole none => exact absurd carries none
  | @cut _ parameters last first =>
    have divided := decodeChars_append written (fun _ => ascii_of_isPathChar) (by decide)
      (by decide) (by decide)
    intro same
    have lengths := congrArg List.length (same.trans divided)
    simp only [List.length_append, List.length_cons] at lengths
    omega

/-- The bucket of an address is its first segment, and the name is what of the rest of the path
comes before the parameters of the last segment; an address without such a name is refused. So the
name is the whole rest of the path just when that carries no parameters, and then paths that stand
for different objects give different blobs. -/
theorem blob_of_namesObject (plain : ∀ c ∈ host.toList, isHostChar c = true)
    (names : NamesObject bucket name) (query : String) :
    (∃ kept, WithoutParameters name.toList kept) ∧
    (∀ kept, WithoutParameters name.toList kept →
      blob (address host bucket name query) =
        if kept = [] then .error (.noObject (Text.quote (address host bucket name query)))
        else .ok ⟨decode bucket, String.ofList (decodeChars kept), none, none⟩) ∧
    (blob (address host bucket name query) = .ok ⟨decode bucket, decode name, none, none⟩ ↔
      ¬CarriesParameters name.toList) ∧
    (¬CarriesParameters name.toList →
      ∀ host' bucket' name' query', (∀ c ∈ host'.toList, isHostChar c = true) →
        NamesObject bucket' name' → ¬CarriesParameters name'.toList →
        (blob (address host bucket name query) = blob (address host' bucket' name' query') ↔
          decode bucket = decode bucket' ∧ decode name = decode name')) := by
  have whole : ∀ {host bucket name : String}, (∀ c ∈ host.toList, isHostChar c = true) →
      NamesObject bucket name → ¬CarriesParameters name.toList → ∀ query,
      blob (address host bucket name query) = .ok ⟨decode bucket, decode name, none, none⟩ := by
    intro host bucket name plain names none query
    have filled : name.toList ≠ [] := by simpa using names.name_ne
    rw [blob_address plain names (.whole none), if_neg filled, decode, decode]
  refine ⟨exists_withoutParameters name.toList, fun kept without => blob_address plain names without
    query, ⟨fun claimed carries => ?_, fun none => whole plain names none query⟩, ?distinct⟩
  · obtain ⟨kept, without⟩ := exists_withoutParameters name.toList
    rw [blob_address plain names without] at claimed
    split at claimed
    · contradiction
    next filled =>
      have same := congrArg Blob.name (Except.ok.inj claimed)
      exact decodeChars_ne_of_carries names carries without (String.ofList_inj.mp same)
  case distinct =>
    intro none host' bucket' name' query' plain' names' none'
    rw [whole plain names none, whole plain' names' none']
    simp

/-- A text that is written without needless escapes may stand in a path. -/
theorem namesObject_of_encode {b n bucket name : String} (bucket_ne : bucket ≠ "")
    (name_ne : name ≠ "") (bucketText : encode Text.upperHexDigit isSegmentChar b = bucket)
    (nameText : encode Text.upperHexDigit isPathChar n = name) : NamesObject bucket name := by
  have upper : ∀ n < 16, Text.IsHexDigit n (Text.upperHexDigit n) := fun _ _ => .inr rfl
  subst bucketText nameText
  exact ⟨bucket_ne, name_ne, ⟨_, writes_encode upper isSegmentChar b⟩,
    ⟨_, writes_encode upper isPathChar n⟩⟩

/-- Semicolons in a bucket and in a directory belong to them; the one in the last segment does not.
-/
theorem blob_of_namesObject_directory :
    ¬CarriesParameters "d;1/%C3%A9".toList ∧
      blob (address "storage.example.com" "b;c" "d;1/%C3%A9;v=2" "q") =
        .ok ⟨"b;c", "d;1/é", none, none⟩ := by
  have plain : ∀ c ∈ "storage.example.com".toList, isHostChar c = true :=
    List.all_eq_true.mp (by decide +kernel)
  have bucketText : encode Text.upperHexDigit isSegmentChar "b;c" = "b;c" := by decide +kernel
  have names : NamesObject "b;c" "d;1/%C3%A9" :=
    namesObject_of_encode (by decide) (by decide) bucketText (n := "d;1/é") (by decide +kernel)
  have versioned : NamesObject "b;c" "d;1/%C3%A9;v=2" :=
    namesObject_of_encode (by decide) (by decide) bucketText (n := "d;1/é;v=2") (by decide +kernel)
  obtain ⟨-, -, whole, -⟩ := blob_of_namesObject plain names "q"
  have none : ¬CarriesParameters "d;1/%C3%A9".toList := whole.mp rfl
  obtain ⟨-, found, -⟩ := blob_of_namesObject plain versioned "q"
  have behind : '/' ∉ "v=2".toList := by decide
  exact ⟨none, found "d;1/%C3%A9".toList (.cut behind none)⟩

/-- Two objects whose names differ in what follows a semicolon. -/
theorem blob_of_namesObject_versions :
    NamesObject "b" "n;v=1" ∧ NamesObject "b" "n;v=2" ∧ decode "n;v=1" ≠ decode "n;v=2" ∧
      blob (address "storage.example.com" "b" "n;v=1" "q") = .ok ⟨"b", "n", none, none⟩ ∧
      blob (address "storage.example.com" "b" "n;v=2" "q") = .ok ⟨"b", "n", none, none⟩ := by
  refine ⟨?first, ?second, by decide +kernel, rfl, rfl⟩
  case first =>
    exact namesObject_of_encode (b := "b") (n := "n;v=1") (by decide) (by decide)
      (by decide +kernel) (by decide +kernel)
  case second =>
    exact namesObject_of_encode (b := "b") (n := "n;v=2") (by decide) (by decide)
      (by decide +kernel) (by decide +kernel)

end ResumableUpload.SignedUrl
