import ResumableUpload.Proofs.Fields
import ResumableUpload.Proofs.Json.Insertion
import ResumableUpload.Proofs.Session.Restoration
import ResumableUpload.Proofs.Snapshot.Veil
import ResumableUpload.Snapshot.Payload

/-!
# Whatever is read is a snapshot

Of every payload either a valid snapshot is read, bound to the options of the reader, or a report on
what is wrong with it. Options that a document gives itself, like all members that a document does
not have, make no difference. What cannot be told from a snapshot is whether there is storage for
its bytes: this shows when it is restored.

## Main results

* `Snapshot.isAt_of_ofFields` — what is reported of named values.
* `Snapshot.ofFields_congr` — the values that a snapshot depends on.
* `Snapshot.Payload.load_admits` — what is read of a payload.
-/

namespace ResumableUpload

/-! ### Reports -/

namespace Report

variable {names : List String} {name : String}

/-- A single violation of a whole. -/
theorem isAt_single (rule : Rule) : IsAt names (single rule) := by
  refine ⟨List.cons_ne_nil _ _, fun v member name head => ?_⟩
  obtain rfl := List.mem_singleton.mp member
  contradiction

/-- A single violation at a name. -/
theorem isAt_singleton (mem : name ∈ names) (path : List String) (rule : Rule) :
    IsAt names [⟨name :: path, rule⟩] := by
  refine ⟨List.cons_ne_nil _ _, fun v member head eq => ?_⟩
  obtain rfl := List.mem_singleton.mp member
  obtain rfl := Option.some.inj eq
  exact mem

/-- Two reports. -/
theorem IsAt.append {first second : Report} (left : IsAt names first) (right : IsAt names second) :
    IsAt names (first ++ second) := by
  refine ⟨List.append_ne_nil_of_left_ne_nil left.ne_nil second, fun v member => ?_⟩
  rcases List.mem_append.mp member with member | member
  · exact left.mem v member
  · exact right.mem v member

/-- A report seen from further out. -/
theorem IsAt.inside {inner : List String} {report : Report} (isAt : IsAt inner report)
    (mem : name ∈ names) : IsAt names (report.inside name) := by
  refine ⟨fun none => isAt.ne_nil (List.map_eq_nil_iff.mp none), fun v member head eq => ?_⟩
  obtain ⟨v, -, rfl⟩ := List.mem_map.mp member
  obtain rfl := Option.some.inj eq
  exact mem

end Report

/-- What is reported of two results. -/
theorem isAt_of_both {α β : Type} {names : List String} {x : Except Report α} {y : Except Report β}
    (left : ∀ report, x = .error report → report.IsAt names)
    (right : ∀ report, y = .error report → report.IsAt names) (report : Report)
    (h : both x y = .error report) : report.IsAt names := by
  cases x with
  | ok a =>
    cases y with
    | ok b => contradiction
    | error second =>
      obtain rfl := Except.error.inj h
      exact right second rfl
  | error first =>
    cases y with
    | ok b =>
      obtain rfl := Except.error.inj h
      exact left first rfl
    | error second =>
      obtain rfl := Except.error.inj h
      exact (left first rfl).append (right second rfl)

namespace Field

variable {α : Type} {names : List String} {name : String} (mem : name ∈ names)
include mem

/-- What is reported at a name. -/
theorem isAt_of_reportAt (result : Except Rule α) (report : Report)
    (h : reportAt name result = .error report) : report.IsAt names := by
  cases result with
  | ok a => contradiction
  | error rule =>
    obtain rfl := Except.error.inj h
    exact Report.isAt_singleton mem [] rule

/-- What is reported of a field. -/
theorem isAt_of_required (fields : Fields) (read : Value → Except Rule α) (report : Report)
    (h : required fields name read = .error report) : report.IsAt names :=
  isAt_of_reportAt mem _ report h

/-- The same for a field that has a default. -/
theorem isAt_of_optional (fields : Fields) (absent : α) (read : Value → Except Rule α)
    (report : Report) (h : optional fields name absent read = .error report) :
    report.IsAt names :=
  isAt_of_reportAt mem _ report h

end Field

/-- What is reported of a blob. -/
theorem Blob.isAt_of_ofFields {fields : Fields} {report : Report}
    (h : ofFields fields = .error report) :
    report.IsAt ["bucket", "name", "content_type", "generation"] := by
  rw [ofFields] at h
  split at h
  next found eq =>
    obtain rfl := Except.error.inj h
    refine isAt_of_both (isAt_of_both ?_ ?_) (isAt_of_both ?_ ?_) found eq
    · exact Field.isAt_of_required (by decide) fields _
    · exact Field.isAt_of_required (by decide) fields _
    · exact Field.isAt_of_optional (by decide) fields none _
    · exact Field.isAt_of_optional (by decide) fields none _
  · contradiction

namespace Snapshot

/-- What is reported of a field that is a model of its own. -/
theorem isAt_of_model {α : Type} {names inner : List String} {name : String} (mem : name ∈ names)
    {fields : Fields} {typeName : String} {given : Option α} {read : Fields → Except Report α}
    (reads : ∀ members report, read members = .error report → report.IsAt inner) (report : Report)
    (h : model fields name typeName given read = .error report) : report.IsAt names := by
  unfold model at h
  split at h
  · contradiction
  · split at h
    · obtain rfl := Except.error.inj h
      exact Report.isAt_singleton mem [] _
    next members _ =>
      cases found : read members with
      | ok a =>
        rw [found] at h
        contradiction
      | error innerReport =>
        rw [found] at h
        obtain rfl := Except.error.inj h
        exact (reads members innerReport found).inside mem
    · obtain rfl := Except.error.inj h
      exact Report.isAt_singleton mem [] _

/-- What is reported of named values when the options are given. -/
theorem isAt_of_ofFields {options : ServiceOptions} {fields : Fields} {report : Report}
    (h : ofFields (some options) none fields = .error report) : report.IsAt memberNames := by
  rw [ofFields] at h
  split at h
  next found eq =>
    obtain rfl := Except.error.inj h
    refine isAt_of_both (isAt_of_both ?given ?described)
      (isAt_of_both (isAt_of_both ?uploadId ?chunkSize)
        (isAt_of_both ?buffer (isAt_of_both ?position ?isOpen))) found eq
    case given =>
      intro report refused
      have given : (Except.ok options : Except Report ServiceOptions) = .error report := refused
      contradiction
    case described =>
      exact isAt_of_model (by decide) fun members report => Blob.isAt_of_ofFields
    case uploadId => exact Field.isAt_of_required (by decide) fields _
    case chunkSize => exact Field.isAt_of_required (by decide) fields _
    case buffer => exact Field.isAt_of_optional (by decide) fields none _
    case position => exact Field.isAt_of_optional (by decide) fields 0 _
    case isOpen => exact Field.isAt_of_optional (by decide) fields true _
  next values _ =>
    unfold checkFits at h
    split at h
    · contradiction
    · split at h
      · obtain rfl := Except.error.inj h
        exact Report.isAt_single _
      · contradiction

/-! ### The members that are looked at -/

/-- A snapshot depends on the members that are looked at, when the options are given. -/
theorem ofFields_congr {options : ServiceOptions} {fields fields' : Fields}
    (same : fields'.filter isMember = fields.filter isMember) :
    ofFields (some options) none fields' = ofFields (some options) none fields := by
  have alike : ∀ name ∈ memberNames, fields'.lookup name = fields.lookup name := by
    intro name looked
    have kept : ∀ v, isMember (name, v) = true := fun _ => List.contains_iff_mem.mpr looked
    rw [← Fields.lookup_filter kept fields', same, Fields.lookup_filter kept]
  have given : ∀ fields : Fields, model fields "options" "StorageOptions" (some options)
      (ServiceOptions.ofFields 0 none) = .ok options := fun _ => rfl
  simp only [ofFields, given, model_congr (alike "blob_info" (by decide)),
    Field.required_congr (alike "upload_id" (by decide)),
    Field.required_congr (alike "chunk_size" (by decide)),
    Field.optional_congr (alike "buffer" (by decide)),
    Field.optional_congr (alike "position" (by decide)),
    Field.optional_congr (alike "is_open" (by decide))]

namespace Payload

variable {options : ServiceOptions}

/-- What is read depends on the JSON value. -/
theorem load_eq (options : ServiceOptions) (payload : Payload) :
    payload.load options = ofDocument options payload.value? := by
  cases payload <;> rfl

/-- What is refused is reported. -/
theorem isAt_of_load {payload : Payload} {report : Report}
    (h : payload.load options = .error report) : report.IsAt memberNames := by
  rw [load_eq] at h
  unfold ofDocument at h
  split at h
  · obtain rfl := Except.error.inj h
    exact Report.isAt_single _
  · exact isAt_of_ofFields h
  · obtain rfl := Except.error.inj h
    exact Report.isAt_single _

/-- What is read is valid and bound to the given options. -/
theorem isValid_of_load {payload : Payload} {s : Snapshot} (h : payload.load options = .ok s) :
    s.options = options ∧ s.IsValid := by
  rw [load_eq] at h
  unfold ofDocument at h
  split at h
  · contradiction
  next members _ =>
    have validated : s.Validated :=
      ⟨some options, none, members, fun _ given => (nomatch given), h⟩
    refine ⟨?_, validated_iff_isValid.mp validated⟩
    rw [ofFields] at h
    split at h
    · contradiction
    next found eq =>
      obtain ⟨-, rfl⟩ := checkFits_eq_ok_iff.mp h
      obtain ⟨references, -⟩ := both_eq_ok_iff.mp eq
      exact (Except.ok.inj (both_eq_ok_iff.mp references).1).symm
  · contradiction

/-- Objects with the same members of those that are looked at are read alike. -/
theorem load_congr {payload payload' : Payload} {members members' : Fields}
    (object : payload.value? = some (.object members))
    (object' : payload'.value? = some (.object members'))
    (same : members'.filter isMember = members.filter isMember) :
    payload'.load options = payload.load options := by
  rw [load_eq, load_eq, object, object']
  exact ofFields_congr same

/-- Members that are not looked at may be added to a document. -/
theorem value?_of_adds {added : Fields} {document document' : String}
    (adds : Json.AddsMembers limits added document document')
    (unknown : ∀ member ∈ added, member.1 ∉ memberNames) :
    ∃ members members', (text document).value? = some (.object members) ∧
      (text document').value? = some (.object members') ∧
      members'.filter isMember = members.filter isMember := by
  obtain ⟨first, last, read, read'⟩ := adds.read
  have dropped : added.filter isMember = [] := by
    rw [List.filter_eq_nil_iff]
    intro member mem looked
    exact unknown member mem (List.contains_iff_mem.mp looked)
  refine ⟨first ++ last, first ++ added ++ last, read, read', ?_⟩
  rw [List.filter_append, List.filter_append, dropped, List.append_nil, List.filter_append]

section Machine

variable [Memory]

/-- Of every payload either a report is given that is not empty, and names no options, or a snapshot
is read. This is bound to the given options; bucket, name and session are not empty, the chunk size
is a positive multiple of 256 KiB, and a buffer fits one chunk. The position is no negative number
by its type. Such a snapshot is restored, unless it is open, holds bytes, and there is no storage
for a chunk; then the shortage of storage is told. Documents that are objects are read alike if they
have the same members under the six names, in this order. In particular members of other names, one
named `options` among them, may be written into a document at any place. -/
theorem load_admits (payload : Payload) (options : ServiceOptions) :
    (∀ report, payload.load options = .error report → report.IsAt memberNames) ∧
    (∀ s, payload.load options = .ok s →
      s.options = options ∧ s.blob.bucket ≠ "" ∧ s.blob.name ≠ "" ∧ s.uploadId ≠ "" ∧
      (0 < s.chunkSize.bytes ∧ s.chunkSize.bytes % 262144 = 0) ∧
      (∀ bytes, s.buffer = some bytes → bytes.size ≤ s.chunkSize.bytes) ∧
      ∀ t : Service, (s.HasRoom → ∃ ch, (s.restore t).1 = .ok ch) ∧
        (¬s.HasRoom → ∃ shortage, Shortage.ofSize? s.chunkSize.bytes = some shortage ∧
          (s.restore t).1 = .error (Channel.shortageFailure shortage))) ∧
    (∀ members, payload.value? = some (.object members) →
      ∀ (payload' : Payload) (members' : Fields), payload'.value? = some (.object members') →
        members'.filter isMember = members.filter isMember →
        payload'.load options = payload.load options) ∧
    ∀ added document document', Json.AddsMembers limits added document document' →
      (∀ member ∈ added, member.1 ∉ memberNames) →
      (text document').load options = (text document).load options ∧
        (bytes document'.toUTF8).load options = (bytes document.toUTF8).load options := by
  refine ⟨fun report => isAt_of_load, ?read, ?same, ?added⟩
  case read =>
    intro s h
    obtain ⟨bound, valid⟩ := isValid_of_load h
    refine ⟨bound, valid.blob.bucket_ne, valid.blob.name_ne, valid.uploadId_ne,
      ⟨s.chunkSize.pos, s.chunkSize.aligned⟩, valid.fits, fun t => ?_⟩
    exact ⟨fun room => valid.exists_restore room t, fun noRoom => valid.restore_eq_error noRoom t⟩
  case same =>
    intro members object payload' members' object' same
    exact load_congr object object' same
  case added =>
    intro added document document' adds unknown
    obtain ⟨members, members', object, object', same⟩ := value?_of_adds adds unknown
    have alike : (text document').load options = (text document).load options :=
      load_congr object object' same
    refine ⟨alike, ?_⟩
    have asText : ∀ d : String, (bytes d.toUTF8).load options = (text d).load options :=
      fun d => ofJsonBytes_toUTF8 options d
    rw [asText, asText, alike]

end Machine

/-- Options and a number that is none, written into a document behind its last member. -/
theorem load_admits_options :
    ∃ (front inserted : String) (s : Snapshot) (ch : Channel),
      front = "\x7b\"blob_info\":\x7b\"bucket\":\"b\",\"name\":\"n\"\x7d,\"upload_id\":\"u\"," ++
        "\"chunk_size\":262144" ∧
      inserted = " \"options\":\x7b\"project_id\":7\x7d, \"x\" : [NaN]\n" ∧
      (text (front ++ "\x7d" ++ "")).load ⟨1, some "p", "west"⟩ = .ok s ∧
      (text (front ++ "," ++ inserted ++ "\x7d" ++ "")).load ⟨1, some "p", "west"⟩ = .ok s ∧
      s.options = ⟨1, some "p", "west"⟩ ∧ (s.restore {}).1 = .ok ch := by
  obtain ⟨front, isFront⟩ : ∃ front, front =
      "\x7b\"blob_info\":\x7b\"bucket\":\"b\",\"name\":\"n\"\x7d,\"upload_id\":\"u\"," ++
        "\"chunk_size\":262144" := ⟨_, rfl⟩
  obtain ⟨inserted, isInserted⟩ : ∃ inserted, inserted =
      " \"options\":\x7b\"project_id\":7\x7d, \"x\" : [NaN]\n" := ⟨_, rfl⟩
  have new : Json.read limits ("\x7b" ++ inserted ++ "\x7d") = some (.object
      [("options", .object [("project_id", .int 7)]), ("x", .list [.float .nan])]) := by
    rw [isInserted]
    rfl
  have whole : Json.read limits (front ++ "\x7d") = some (.object
      [("blob_info", .object [("bucket", .text "b"), ("name", .text "n")]),
        ("upload_id", .text "u"), ("chunk_size", .int 262144)]) := by
    rw [isFront]
    rfl
  have ended : front ++ "\x7d" ++ "" = front ++ "\x7d" := String.append_empty
  have adds := Json.AddsMembers.behind new (by simp) whole (by simp) (.inr rfl) (ended ▸ whole)
  obtain ⟨s, read, isOpen, empty⟩ : ∃ s, (text (front ++ "\x7d" ++ "")).load
      ⟨1, some "p", "west"⟩ = .ok s ∧ s.isOpen = true ∧ s.buffer = none := by
    rw [isFront]
    exact ⟨_, rfl, rfl, rfl⟩
  obtain ⟨-, admitted, -, added⟩ :=
    load_admits (text (front ++ "\x7d" ++ "")) ⟨1, some "p", "west"⟩
  obtain ⟨bound, -, -, -, -, -, restored⟩ := admitted s read
  have room : s.HasRoom := fun _ held => absurd (by rw [empty]; rfl) held
  obtain ⟨ch, made⟩ := (restored {}).1 room
  have unknown : ∀ member ∈ ([("options", .object [("project_id", .int 7)]),
      ("x", .list [.float .nan])] : Fields), member.1 ∉ memberNames := by
    intro member mem
    simp only [List.mem_cons, List.not_mem_nil, or_false] at mem
    rcases mem with rfl | rfl <;> decide
  obtain ⟨alike, -⟩ := added _ _ _ adds unknown
  exact ⟨front, inserted, s, ch, isFront, isInserted, read, alike.trans read, bound, made⟩

/-- A document with a single byte and a chunk size that addresses do not reach is read, but what is
read of it cannot be restored. -/
theorem load_unreachable :
    ∃ s, (text ("\x7b\"blob_info\":\x7b\"bucket\":\"b\",\"name\":\"n\"\x7d,\"upload_id\":\"u\"," ++
        "\"chunk_size\":9223372036854775808,\"buffer\":\"AQ==\"\x7d")).load
          ⟨0, none, "main"⟩ = .ok s ∧
      ∀ t : Service, (s.restore t).1 =
        .error (.outOfRange "cannot fit 'int' into an index-sized integer") := by
  obtain ⟨s, read, buffer, isOpen, size⟩ : ∃ s,
      (text ("\x7b\"blob_info\":\x7b\"bucket\":\"b\",\"name\":\"n\"\x7d,\"upload_id\":\"u\"," ++
        "\"chunk_size\":9223372036854775808,\"buffer\":\"AQ==\"\x7d")).load
          ⟨0, none, "main"⟩ = .ok s ∧
      s.buffer = some ⟨#[1]⟩ ∧ s.isOpen = true ∧ s.chunkSize.bytes = 9223372036854775808 :=
    ⟨_, rfl, rfl, rfl, rfl⟩
  have shortage : Shortage.ofSize? 9223372036854775808 = some .addresses :=
    Shortage.ofSize?_of_addressLimit_le (by decide)
  have noRoom : ¬s.HasRoom := by
    intro room
    have available := room isOpen (by rw [buffer]; decide)
    rw [size, shortage] at available
    contradiction
  refine ⟨s, read, fun t => ?_⟩
  obtain ⟨found, eq, failed⟩ := (isValid_of_load read).2.restore_eq_error noRoom t
  rw [size, shortage, Option.some.injEq] at eq
  subst eq
  exact failed

/-- Lists are read as a document that stand in as many containers as is allowed. -/
theorem value?_nested :
    (text (String.ofList (List.replicate 201 '[') ++
      String.ofList (List.replicate 201 ']'))).value?.isSome = true := by
  rw [value?, Json.read, Json.tokenize_lists]
  decide +kernel

/-- A document with a single byte, and a chunk size that addresses do not reach, is read, but what
is read of it cannot be restored. And lists that are nested as deeply as can be read are nested too
deeply in a document. -/
theorem load_admits_limits :
    (∃ s, (text ("\x7b\"blob_info\":\x7b\"bucket\":\"b\",\"name\":\"n\"\x7d,\"upload_id\":\"u\"," ++
        "\"chunk_size\":9223372036854775808,\"buffer\":\"AQ==\"\x7d")).load
          ⟨0, none, "main"⟩ = .ok s ∧
      ∀ t : Service, (s.restore t).1 =
        .error (.outOfRange "cannot fit 'int' into an index-sized integer")) ∧
    ∃ (front opening closing : String) (s : Snapshot),
      opening = String.ofList (List.replicate 201 '[') ∧
      closing = String.ofList (List.replicate 201 ']') ∧
      (text (opening ++ closing)).value?.isSome = true ∧
      (text (front ++ "\x7d")).load ⟨0, none, "main"⟩ = .ok s ∧
      (text (front ++ ",\"x\":" ++ opening ++ (closing ++ "\x7d"))).load ⟨0, none, "main"⟩ =
        .error (.single .wellFormed) := by
  refine ⟨load_unreachable, ?_⟩
  obtain ⟨front, isFront⟩ : ∃ front, front =
      "\x7b\"blob_info\":\x7b\"bucket\":\"b\",\"name\":\"n\"\x7d,\"upload_id\":\"u\"," ++
        "\"chunk_size\":262144" := ⟨_, rfl⟩
  obtain ⟨first, whole, first_ne⟩ : ∃ first, Json.read limits (front ++ "\x7d") =
      some (.object first) ∧ first ≠ [] := by
    rw [isFront]
    exact ⟨_, rfl, List.cons_ne_nil _ _⟩
  obtain ⟨s, read⟩ : ∃ s, (text (front ++ "\x7d")).load ⟨0, none, "main"⟩ = .ok s := by
    rw [isFront]
    exact ⟨_, rfl⟩
  refine ⟨front, _, _, s, rfl, rfl, value?_nested, read, ?_⟩
  rw [load_eq, value?, Json.read_nested whole first_ne (by decide)]
  rfl

end Payload

end Snapshot

end ResumableUpload
