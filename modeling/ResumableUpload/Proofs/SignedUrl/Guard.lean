import Mathlib.Data.List.TakeWhile
import Mathlib.Data.Set.List
import ResumableUpload.Failure.Chain
import ResumableUpload.Proofs.Session.Surfacing
import ResumableUpload.Proofs.SignedUrl
import ResumableUpload.Proofs.Snapshot.Json
import ResumableUpload.Proofs.Url.Points
import ResumableUpload.Proofs.Url.Split

/-!
# Which addresses name a blob

An address names a blob just when a slash divides its path into two parts that are not empty, and
there is no lone surrogate in the path. The blob that is made of the two parts is checked once more;
all that can be found then are lone surrogates, because whatever is decoded of something is not
empty. An address that names no blob is refused before the storage is asked for anything.

## Main results

* `SignedUrl.target?_eq_some_iff` — how a path is divided.
* `SignedUrl.describe_eq_ok_iff` — which parts pass the checks.
* `SignedUrl.blobOfPoints_points` — an address without lone surrogates.
* `SignedUrl.blob_guard` — which addresses are refused, and how.
-/

namespace ResumableUpload.SignedUrl

open Text (Letter Point)
open Text.Percent

/-! ### Dividing the path -/

section Division

variable {α : Type} [Letter α] {path bucket name : List α}

/-- What is left of a path from its first slash on begins with it. -/
theorem exists_slash {letters : List α}
    (rest : (letters.dropWhile (Letter.char · ≠ '/')).drop 1 ≠ []) :
    ∃ slash : α, Letter.char slash = '/' ∧ letters.dropWhile (Letter.char · ≠ '/') =
      slash :: (letters.dropWhile (Letter.char · ≠ '/')).drop 1 := by
  have stops := List.head?_dropWhile_not (fun c : α => decide (Letter.char c ≠ '/')) letters
  cases left : letters.dropWhile (Letter.char · ≠ '/') with
  | nil =>
    rw [left] at rest
    contradiction
  | cons slash letters' =>
    rw [left] at stops
    simp only [List.head?_cons, ne_eq, decide_not, Bool.not_eq_false', decide_eq_true_eq] at stops
    exact ⟨slash, stops, rfl⟩

/-- A path is divided at its first slash, leading slashes aside, if there is something on both sides
of it. -/
theorem target?_eq_some_iff :
    target? path = some (bucket, name) ↔ ∃ slash : α, Letter.char slash = '/' ∧
      path.dropWhile (Letter.char · = '/') = bucket ++ slash :: name ∧ bucket ≠ [] ∧
      '/' ∉ bucket.map Letter.char ∧ name ≠ [] := by
  rw [target?]
  generalize path.dropWhile (Letter.char · = '/') = path
  constructor
  · intro divided
    split at divided
    · contradiction
    next filled =>
      simp only [Option.some.injEq, Prod.mk.injEq] at divided
      obtain ⟨rfl, rfl⟩ := divided
      simp only [Bool.or_eq_true, not_or, Bool.not_eq_true, List.isEmpty_eq_false_iff] at filled
      obtain ⟨slash, isSlash, begins⟩ := exists_slash filled.2
      refine ⟨slash, isSlash, ?_, filled.1, fun found => ?_, filled.2⟩
      · rw [← begins, List.takeWhile_append_dropWhile]
      · obtain ⟨letter, member, eq⟩ := List.mem_map.mp found
        simpa [eq] using List.mem_takeWhile_imp member
  · rintro ⟨slash, isSlash, rfl, bucket_ne, segment, name_ne⟩
    rw [Url.takeWhile_ne segment, Url.dropWhile_ne segment]
    simp [isSlash, bucket_ne, name_ne]

/-- A path is divided if it has any slash with something on both sides of it, leading slashes aside.
-/
theorem exists_target?_iff :
    (∃ parts, target? path = some parts) ↔ ∃ part slash rest, Letter.char slash = '/' ∧
      path.dropWhile (Letter.char · = '/') = part ++ slash :: rest ∧ part ≠ [] ∧ rest ≠ [] := by
  constructor
  · rintro ⟨⟨bucket, name⟩, divided⟩
    obtain ⟨slash, isSlash, eq, bucket_ne, -, name_ne⟩ := target?_eq_some_iff.mp divided
    exact ⟨bucket, slash, name, isSlash, eq, bucket_ne, name_ne⟩
  · rintro ⟨part, slash, rest, isSlash, eq, part_ne, rest_ne⟩
    obtain ⟨first, front, rfl⟩ := List.exists_cons_of_ne_nil part_ne
    have led := List.head?_dropWhile_not (fun c : α => decide (Letter.char c = '/')) path
    rw [eq] at led
    have bucket_ne : (first :: front ++ slash :: rest).takeWhile (Letter.char · ≠ '/') ≠ [] := by
      simp only [List.cons_append, List.head?_cons, decide_eq_false_iff_not] at led
      simp [led]
    -- The slash need not be the first one, but then there is even more behind that.
    have name_ne : ((first :: front ++ slash :: rest).dropWhile (Letter.char · ≠ '/')).drop 1 ≠
        [] := by
      rw [List.dropWhile_append]
      cases (first :: front).dropWhile (Letter.char · ≠ '/') with
      | nil => simpa [isSlash] using rest_ne
      | cons other behind => simp
    have filled := not_or.mpr ⟨mt List.isEmpty_iff.mp bucket_ne, mt List.isEmpty_iff.mp name_ne⟩
    rw [target?, eq, if_neg (mt Bool.or_eq_true_iff.mp filled)]
    exact ⟨_, rfl⟩

end Division

/-! ### Rows of characters -/

/-- Points are characters if none of them is a surrogate. -/
theorem exists_map_char {points : List Point} (h : ∀ point ∈ points, ∃ c, point = .char c) :
    ∃ cs : List Char, points = cs.map .char := by
  have all : points ∈ Set.range (List.map Point.char) := by
    rw [Set.range_list_map]
    intro point member
    obtain ⟨c, rfl⟩ := h point member
    exact ⟨c, rfl⟩
  obtain ⟨cs, rfl⟩ := all
  exact ⟨cs, rfl⟩

/-- Only a slash is read as one. -/
theorem eq_slash {point : Point} (h : Letter.char point = '/') : point = .char '/' := by
  cases point with
  | char c => rw [show c = '/' from h]
  | surrogate number => exact absurd (show '\uFFFD' = '/' from h) (by decide)

/-- Rows of characters are told apart as rows of points. -/
theorem map_char_inj {cs cs' : List Char} : cs.map Point.char = cs'.map .char ↔ cs = cs' :=
  List.map_inj_right fun _ _ => Point.char.inj

/-! ### Checking the parts -/

variable {part bucket name : List Point} {b : Blob}

/-- A part of a path passes the checks if it consists of characters, and there is one. -/
theorem partText_eq_ok_iff {text : String} :
    partText part = .ok text ↔ ∃ cs : List Char, part = cs.map .char ∧ cs ≠ [] ∧
      text = String.ofList (decodeChars cs) := by
  rw [partText, Field.notEmpty, Field.textOfPoints, characters?_decodePoints]
  cases read : Point.characters? part with
  | none =>
    constructor
    · intro passed
      contradiction
    · rintro ⟨cs, rfl, -⟩
      rw [Point.characters?_map] at read
      contradiction
  | some cs =>
    obtain rfl := Point.eq_map_of_characters? read
    dsimp only [Option.map_some]
    constructor
    · intro passed
      split at passed
      · contradiction
      next filled =>
        refine ⟨cs, rfl, ?_, (Except.ok.inj passed).symm⟩
        rintro rfl
        exact filled rfl
    · rintro ⟨cs', same, ne, rfl⟩
      obtain rfl := map_char_inj.mp same
      have filled : (String.ofList (decodeChars cs)).isEmpty = false := by
        rw [String.isEmpty_eq_false_iff, ne_eq, String.ofList_eq_empty_iff]
        exact decodeChars_ne_nil ne
      rw [filled]
      rfl

/-- A part of a path that is not empty is refused for nothing but a lone surrogate. -/
theorem rule_of_partText {rule : Rule} (ne : part ≠ []) (refused : partText part = .error rule) :
    rule = .textEncoding := by
  cases read : Point.characters? part with
  | none =>
    rw [partText, Field.notEmpty, Field.textOfPoints, characters?_decodePoints, read] at refused
    exact (Except.error.inj refused).symm
  | some cs =>
    obtain rfl := Point.eq_map_of_characters? read
    have passed := partText_eq_ok_iff.mpr ⟨cs, rfl, fun nothing => ne (by rw [nothing]; rfl), rfl⟩
    rw [passed] at refused
    contradiction

/-- Two parts pass the checks of a blob just when they are not empty and hold no surrogate. -/
theorem describe_eq_ok_iff :
    describe bucket name = .ok b ↔ ∃ part rest : List Char, bucket = part.map .char ∧
      name = rest.map .char ∧ part ≠ [] ∧ rest ≠ [] ∧
      b = ⟨String.ofList (decodeChars part), String.ofList (decodeChars rest), none, none⟩ := by
  constructor
  · intro described
    rw [describe] at described
    cases bucketRead : partText bucket with
    | error rule =>
      cases nameRead : partText name <;>
        simp [bucketRead, nameRead, Field.reportAt, both] at described
    | ok text =>
      cases nameRead : partText name with
      | error rule => simp [bucketRead, nameRead, Field.reportAt, both] at described
      | ok text' =>
        obtain ⟨part, rfl, part_ne, rfl⟩ := partText_eq_ok_iff.mp bucketRead
        obtain ⟨rest, rfl, rest_ne, rfl⟩ := partText_eq_ok_iff.mp nameRead
        rw [bucketRead, nameRead] at described
        exact ⟨part, rest, rfl, rfl, part_ne, rest_ne, (Except.ok.inj described).symm⟩
  · rintro ⟨part, rest, rfl, rfl, part_ne, rest_ne, rfl⟩
    rw [describe, partText_eq_ok_iff.mpr ⟨part, rfl, part_ne, rfl⟩,
      partText_eq_ok_iff.mpr ⟨rest, rfl, rest_ne, rfl⟩]
    rfl

/-- Parts that are not empty are refused for nothing but lone surrogates. -/
theorem rule_of_describe {report : Report} (bucket_ne : bucket ≠ []) (name_ne : name ≠ [])
    (refused : describe bucket name = .error report) : ∀ v ∈ report, v.rule = .textEncoding := by
  rw [describe] at refused
  have rules : ∀ field part, part ≠ [] → ∀ report',
      Field.reportAt field (partText part) = .error report' →
        ∀ v ∈ report', v.rule = .textEncoding := by
    intro field part ne report' bad v member
    cases read : partText part with
    | ok text =>
      rw [read] at bad
      contradiction
    | error rule =>
      rw [read] at bad
      obtain rfl := Except.error.inj bad
      rw [List.mem_singleton.mp member]
      exact rule_of_partText ne read
  have ofBucket := rules "bucket" bucket bucket_ne
  have ofName := rules "name" name name_ne
  cases bucketRead : Field.reportAt "bucket" (partText bucket) with
  | error first =>
    cases nameRead : Field.reportAt "name" (partText name) with
    | error second =>
      rw [bucketRead, nameRead] at refused
      obtain rfl := Except.error.inj refused
      intro v member
      rcases List.mem_append.mp member with member | member
      · exact ofBucket first bucketRead v member
      · exact ofName second nameRead v member
    | ok text =>
      rw [bucketRead, nameRead] at refused
      obtain rfl := Except.error.inj refused
      exact ofBucket first bucketRead
  | ok text =>
    cases nameRead : Field.reportAt "name" (partText name) with
    | error second =>
      rw [bucketRead, nameRead] at refused
      obtain rfl := Except.error.inj refused
      exact ofName second nameRead
    | ok text' =>
      rw [bucketRead, nameRead] at refused
      contradiction

/-- Two rows of characters are checked as bucket and name of every blob are. -/
theorem describe_map (bucket name : List Char) :
    describe (bucket.map .char) (name.map .char) =
      Blob.ofFields [("bucket", .text (String.ofList (decodeChars bucket))),
        ("name", .text (String.ofList (decodeChars name)))] := by
  have text : ∀ cs : List Char, partText (cs.map .char) =
      Field.notEmpty Field.text (.text (String.ofList (decodeChars cs))) := by
    intro cs
    rw [partText, Field.notEmpty, Field.textOfPoints, characters?_decodePoints,
      Point.characters?_map]
    rfl
  rw [describe, text, text, Blob.ofFields, Field.required_of_lookup rfl,
    Field.required_of_lookup rfl, Field.optional_of_lookup_none rfl,
    Field.optional_of_lookup_none rfl]
  generalize Field.reportAt "bucket" _ = first, Field.reportAt "name" _ = second
  cases first <;> cases second <;> rfl

/-! ### The blob of an address -/

variable {url : List Point}

/-- Points name the blob that the two parts of their path describe. -/
theorem blobOfPoints_of_target? {path : List Point} (found : Url.path url = .ok path)
    (divided : target? path = some (bucket, name)) :
    blobOfPoints url = (describe bucket name).mapError .invalid := by
  rw [blobOfPoints, found]
  dsimp only
  rw [divided]

/-- Points name no other blob. -/
theorem exists_target?_of_blobOfPoints (named : blobOfPoints url = .ok b) :
    ∃ path bucket name, Url.path url = .ok path ∧ target? path = some (bucket, name) ∧
      describe bucket name = .ok b := by
  rw [blobOfPoints] at named
  split at named
  · contradiction
  next path found =>
    split at named
    · contradiction
    next bucket name divided =>
      exact ⟨path, bucket, name, found, divided, mapError_eq_ok_iff.mp named⟩

/-- Points name a blob just when their path consists of characters, and a slash in it has something
on both sides, leading slashes aside. -/
theorem exists_blobOfPoints_iff :
    (∃ b, blobOfPoints url = .ok b) ↔ ∃ path part rest : List Char,
      Url.path url = .ok (path.map .char) ∧ path.dropWhile (· = '/') = part ++ '/' :: rest ∧
      part ≠ [] ∧ rest ≠ [] := by
  have dropped : ∀ path : List Char, (path.map Point.char).dropWhile (Letter.char · = '/') =
      (path.dropWhile (· = '/')).map .char := by
    intro path
    rw [List.dropWhile_map]
    rfl
  constructor
  · rintro ⟨b, named⟩
    obtain ⟨points, bucket, name, found, divided, described⟩ := exists_target?_of_blobOfPoints named
    obtain ⟨part, rest, rfl, rfl, part_ne, rest_ne, -⟩ := describe_eq_ok_iff.mp described
    obtain ⟨slash, isSlash, eq, -⟩ := target?_eq_some_iff.mp divided
    obtain rfl := eq_slash isSlash
    obtain ⟨path, rfl⟩ : ∃ path : List Char, points = path.map .char := by
      apply exists_map_char
      intro point member
      rw [← List.takeWhile_append_dropWhile (l := points), List.mem_append, eq] at member
      rcases member with leading | member
      · exact ⟨'/', eq_slash (by simpa using List.mem_takeWhile_imp leading)⟩
      · rw [← List.map_cons, ← List.map_append] at member
        obtain ⟨c, -, rfl⟩ := List.mem_map.mp member
        exact ⟨c, rfl⟩
    rw [dropped, ← List.map_cons, ← List.map_append, map_char_inj] at eq
    exact ⟨path, part, rest, found, eq, part_ne, rest_ne⟩
  · rintro ⟨path, part, rest, found, eq, part_ne, rest_ne⟩
    have slashed : (path.map Point.char).dropWhile (Letter.char · = '/') =
        part.map .char ++ .char '/' :: rest.map .char := by
      rw [dropped, eq, List.map_append, List.map_cons]
    obtain ⟨⟨bucket, name⟩, divided⟩ :=
      exists_target?_iff.mpr ⟨_, _, _, rfl, slashed, by simpa using part_ne, by simpa using rest_ne⟩
    obtain ⟨slash, -, eq', bucket_ne, -, name_ne⟩ := target?_eq_some_iff.mp divided
    rw [dropped] at eq'
    -- The parts need not be `part` and `rest`, but they consist of characters as well.
    obtain ⟨first, second, -, rfl, read⟩ := List.map_eq_append_iff.mp eq'
    obtain ⟨c, second, -, -, rfl⟩ := List.map_eq_cons_iff.mp read
    have described := describe_eq_ok_iff.mpr ⟨first, second, rfl, rfl, by simpa using bucket_ne,
      by simpa using name_ne, rfl⟩
    rw [blobOfPoints_of_target? found divided, described]
    exact ⟨_, rfl⟩

/-! ### Addresses without lone surrogates -/

/-- A row of characters is divided in the same way when it is taken as points. -/
theorem target?_map (path : List Char) :
    target? (path.map Point.char) =
      (target? path).map fun parts => (parts.1.map .char, parts.2.map .char) := by
  rw [target?, target?, List.dropWhile_map, Url.takeWhile_ne_map, Url.dropWhile_ne_map,
    ← List.map_drop, List.isEmpty_map, List.isEmpty_map, apply_ite (Option.map _)]
  rfl

/-- An address names the same blob as a row of characters and as a row of points, or is refused as
both: for texts the checks of the blob find nothing. -/
theorem blobOfPoints_points (url : String) :
    blobOfPoints (Text.points url) = (blob url).mapError Fault.refusal := by
  rw [blobOfPoints, Text.points, Url.path_map, blob]
  cases Url.path url.toList with
  | error fault => rfl
  | ok path =>
    dsimp only [Except.map, Except.mapError]
    rw [target?_map]
    cases divided : target? path with
    | none => rfl
    | some parts =>
      obtain ⟨bucket_ne, name_ne⟩ := target?_ne_nil divided
      have described := describe_eq_ok_iff.mpr ⟨_, _, rfl, rfl, bucket_ne, name_ne, rfl⟩
      dsimp only [Option.map]
      rw [described]

/-- A channel is opened for an address in the same way as for its points, what is said of a bad one
included. -/
theorem openSigned_eq_openPoints {options : ServiceOptions} {url shown : String}
    (told : ∀ fault, blob url = .error fault → shown = fault.message) (requested : Value)
    (s : Service) :
    Channel.openSigned options url requested s =
      Channel.openPoints options (Text.points url) shown (Service.openSignedSession options url)
        requested s := by
  rw [Channel.openSigned, Channel.openPoints, blobOfPoints_points]
  cases named : blob url with
  | ok b => rfl
  | error fault =>
    obtain rfl := told fault named
    cases fault <;> rfl

/-! ### What is said about a bad address -/

/-- There is always something said about an address that cannot be taken apart. -/
theorem message_address_ne (fault : Url.UrlFault Char) : fault.message ≠ "" := by
  fun_cases Url.UrlFault.message fault with
  | case1 => simp
  | case2 => simp
  | case3 => simp
  | case4 => exact fun nothing => absurd (String.append_eq_empty_iff.mp nothing).2 (by decide)
  | case5 => exact fun nothing => absurd (String.append_eq_empty_iff.mp nothing).2 (by decide)

/-- There is always something said about a bad address. -/
theorem Fault.message_ne (fault : Fault) : fault.message ≠ "" := by
  fun_cases Fault.message fault with
  | case1 fault => exact message_address_ne fault
  | case2 => exact fun nothing => absurd (String.append_eq_empty_iff.mp nothing).1 (by decide)

/-- The failure to open a channel for a bad address is a storage failure that says what is wrong
with the address. -/
theorem message_addressFailure (fault : Fault) :
    (Channel.addressFailure fault).fault.message = fault.message := by
  rw [Channel.addressFailure, Failure.causing, StorageFault.plain_of_ne _ fault.message_ne]
  rfl

/-- Whatever is wrong with points, it lies in a value. -/
theorem isA_invalidValue (refusal : Refusal) :
    refusal.kind.IsA (.program .invalidValue) := by
  cases refusal with
  | address fault => exact .known .refl
  | noObject => exact .known .refl
  | invalid report => exact .declared List.mem_cons_self .refl

/-- No channel is opened for points that name no blob: once the chunk size is settled, a storage
failure is caused by what is wrong with them, and nothing is asked of the storage. -/
theorem openPoints_of_refusal {url : List Point} {refusal : Refusal}
    (refused : blobOfPoints url = .error refusal) (shown : String) (options : ServiceOptions)
    (ask : Service → Except Failure String × Service) {requested : Value} {s s' : Service}
    {chunkSize : ChunkSize}
    (settled : Channel.settleChunkSize requested s = (.ok chunkSize, s')) :
    Channel.openPoints options url shown ask requested s =
      (.error (.failure (Channel.refusalFailure shown refusal)), s') ∧ s'.calls = s.calls := by
  have asks := Channel.asks_settleChunkSize settled options fun _ => False
  refine ⟨?_, asks.makes.calls_eq⟩
  rw [Channel.openPoints, Channel.openNamed, settled, refused]
  rfl

/-! ### The guard -/

/-- Points name a blob as an address just when they can be taken apart, their path holds no lone
surrogate, and in it, leading slashes aside, a slash has something on both sides. Bucket and name of
the blob are not empty. Two parts of a path pass the checks of a blob just when they are not empty
and hold no surrogate; since nothing is decoded only of nothing, the checks find nothing but
surrogates where the guard has found two parts. Whatever is wrong lies in a value, and no channel is
opened: once the chunk size is settled, a storage failure is caused by it, and nothing is asked of
the storage. An address without lone surrogates names the same blob as a text, and the storage
failure tells what is wrong with it. -/
theorem blob_guard :
    (∀ url : List Point,
      ((∃ b, blobOfPoints url = .ok b) ↔ ∃ path part rest : List Char,
        Url.path url = .ok (path.map .char) ∧ path.dropWhile (· = '/') = part ++ '/' :: rest ∧
        part ≠ [] ∧ rest ≠ []) ∧
      (∀ b, blobOfPoints url = .ok b → b.bucket ≠ "" ∧ b.name ≠ "") ∧
      (∀ path bucket name, Url.path url = .ok path → target? path = some (bucket, name) →
        blobOfPoints url = (describe bucket name).mapError .invalid ∧
        ∀ report, describe bucket name = .error report → ∀ v ∈ report, v.rule = .textEncoding) ∧
      ∀ refusal, blobOfPoints url = .error refusal →
        refusal.kind.IsA (.program .invalidValue) ∧
        ∀ shown, ∃ f : Failure, f.fault.name = "StorageError" ∧
          f.causes.map Fault.name = [refusal.kind.name] ∧
          ∀ options ask requested s chunkSize s',
            Channel.settleChunkSize requested s = (.ok chunkSize, s') →
            Channel.openPoints options url shown ask requested s = (.error (.failure f), s') ∧
              s'.calls = s.calls) ∧
    (∀ bucket name : List Point, (∃ b, describe bucket name = .ok b) ↔
      ∃ part rest : List Char, bucket = part.map .char ∧ name = rest.map .char ∧ part ≠ [] ∧
        rest ≠ []) ∧
    (∀ points, decodePoints points = [] ↔ points = []) ∧
    ∀ url : String, blobOfPoints (Text.points url) = (blob url).mapError Fault.refusal ∧
      ∀ fault, blob url = .error fault →
        ∃ f : Failure, f.fault.name = "StorageError" ∧ f.fault.message = fault.message ∧
          f.causes.map Fault.name = ["ValueError"] ∧
          ∀ options requested s chunkSize s',
            Channel.settleChunkSize requested s = (.ok chunkSize, s') →
            Channel.openSigned options url requested s = (.error (.failure f), s') ∧
              s'.calls = s.calls := by
  refine ⟨fun url => ⟨exists_blobOfPoints_iff, fun b named => ?filled, ?checked,
      fun refusal refused => ⟨isA_invalidValue refusal, fun shown => ?unopened⟩⟩,
    fun bucket name => ?checks, fun points => decodePoints_eq_nil_iff,
    fun url => ⟨blobOfPoints_points url, fun fault bad => ?refused⟩⟩
  case filled =>
    obtain ⟨path, bucket, name, -, -, described⟩ := exists_target?_of_blobOfPoints named
    obtain ⟨part, rest, -, -, part_ne, rest_ne, rfl⟩ := describe_eq_ok_iff.mp described
    exact ⟨by simpa using decodeChars_ne_nil part_ne, by simpa using decodeChars_ne_nil rest_ne⟩
  case checked =>
    intro path bucket name found divided
    obtain ⟨-, -, -, bucket_ne, -, name_ne⟩ := target?_eq_some_iff.mp divided
    exact ⟨blobOfPoints_of_target? found divided, fun report => rule_of_describe bucket_ne name_ne⟩
  case unopened =>
    exact ⟨Channel.refusalFailure shown refusal, rfl, rfl,
      fun options ask _ _ _ _ => openPoints_of_refusal refused shown options ask⟩
  case checks =>
    constructor
    · rintro ⟨b, described⟩
      obtain ⟨part, rest, bucketIs, nameIs, part_ne, rest_ne, -⟩ :=
        describe_eq_ok_iff.mp described
      exact ⟨part, rest, bucketIs, nameIs, part_ne, rest_ne⟩
    · rintro ⟨part, rest, bucketIs, nameIs, part_ne, rest_ne⟩
      exact ⟨_, describe_eq_ok_iff.mpr ⟨part, rest, bucketIs, nameIs, part_ne, rest_ne, rfl⟩⟩
  case refused =>
    have told : ∀ fault', blob url = .error fault' → fault.message = fault'.message := by
      intro fault' bad'
      rw [bad] at bad'
      rw [Except.error.inj bad']
    have unnamed : blobOfPoints (Text.points url) = .error fault.refusal := by
      rw [blobOfPoints_points, bad]
      rfl
    have same : Channel.refusalFailure fault.message fault.refusal =
        Channel.addressFailure fault := by
      cases fault <;> rfl
    refine ⟨Channel.addressFailure fault, rfl, message_addressFailure fault, rfl,
      fun options requested s chunkSize s' settled => ?_⟩
    rw [openSigned_eq_openPoints told, ← same]
    exact openPoints_of_refusal unnamed fault.message options _ settled

/-- In an address with a lone surrogate for a bucket, the guard finds a bucket and a name, but no
blob is made of them. -/
theorem blob_guard_surrogate :
    (∃ path part rest,
      Url.path (Text.points "https://h/" ++ .surrogate 0 :: Text.points "/x") = .ok path ∧
      path.dropWhile (Letter.char · = '/') = part ++ .char '/' :: rest ∧ part ≠ [] ∧ rest ≠ []) ∧
    blobOfPoints (Text.points "https://h/" ++ .surrogate 0 :: Text.points "/x") =
      .error (.invalid [⟨["bucket"], .textEncoding⟩]) :=
  ⟨⟨[.char '/', .surrogate 0, .char '/', .char 'x'], [.surrogate 0], [.char 'x'], rfl, rfl,
    List.cons_ne_nil _ _, List.cons_ne_nil _ _⟩, rfl⟩

/-- Malformed escapes are kept, and bytes that are no UTF-8 are replaced. -/
example : blob "https://h//%zz/%ff" = .ok ⟨"%zz", "\uFFFD", none, none⟩ := by rfl

end ResumableUpload.SignedUrl
