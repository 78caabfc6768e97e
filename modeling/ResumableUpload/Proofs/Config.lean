import ResumableUpload.Config.Layers
import ResumableUpload.Proofs.Fields

/-!
# Only the values in force matter

The layers are merged before anything is validated. So a configuration is refused just when the
chunk size in force is not valid, whatever stands in the layers below, and otherwise it consists of
the values in force. A setting that cannot be read is reported even if it is overridden.

## Main results

* `Config.exists_inForce` — overrides of the right types leave values in force.
* `Config.resolve_fst` — the configuration that the values in force make up.
* `Config.resolve_inForce` — when a configuration is accepted, what it is, and what is reported.
-/

namespace ResumableUpload

/-- The line that tells of a setting that cannot be read. -/
theorem Environment.line_settingIgnored (written : String) :
    (Event.settingIgnored chunkSizeName written).line =
      "WARNING Ignoring unparsable BLOBCHANNEL_CHUNK_SIZE=" ++ Text.quote written := by
  have parts : (Event.settingIgnored chunkSizeName written).line =
      "WARNING" ++ " " ++ ("Ignoring unparsable " ++ chunkSizeName ++ "=" ++ Text.quote written) :=
    rfl
  rw [parts]
  simp [chunkSizeName, ← String.append_assoc]

namespace Config

variable {e : Environment} {base : Config} {overrides : Fields}

/-! ### The values in force -/

/-- When overrides are of the right types there is a chunk size in force, and a project. -/
theorem exists_inForce (typed : AreTyped overrides) (e : Environment) (base : Config) :
    (∃ size, SizeInForce e base overrides size) ∧
      ∃ project, ProjectInForce e base overrides project := by
  constructor
  · cases given : overrides.lookup "chunk_size" with
    | some v =>
      obtain ⟨size, integer⟩ := typed.chunkSize v given
      exact ⟨size, .overridden given integer⟩
    | none =>
      cases setting : e.chunkSize with
      | none => exact ⟨_, .base given fun written eq => by simp [setting] at eq⟩
      | some written =>
        cases read : ByteQuantity.parseText written with
        | ok size => exact ⟨size, .set given setting read⟩
        | error fault =>
          refine ⟨_, .base given fun other eq => ?_⟩
          obtain rfl : written = other := Option.some.inj (setting.symm.trans eq)
          exact ⟨fault, read⟩
  · cases given : overrides.lookup "project_id" with
    | some v =>
      obtain ⟨project, rfl⟩ := typed.projectId v given
      exact ⟨project, .overridden given⟩
    | none =>
      cases setting : e.projectId with
      | none => exact ⟨_, .base given setting⟩
      | some project => exact ⟨_, .set given setting⟩

/-! ### Merging -/

/-- The merged layers, of which the last one that has a name decides. -/
def merged (e : Environment) (base : Config) (overrides : Fields) : Fields :=
  base.layer ++ e.layer.1 ++ overrides

/-- What the layers below the overrides give. -/
theorem lookup_merged (name : String) :
    (merged e base overrides).lookup name =
      (overrides.lookup name).or ((e.projectLayer.lookup name).or
        ((e.chunkSizeLayer.1.lookup name).or (base.layer.lookup name))) := by
  have settings : e.layer.1 = e.chunkSizeLayer.1 ++ e.projectLayer := rfl
  rw [merged, settings, Fields.lookup_append, Fields.lookup_append, Fields.lookup_append,
    Option.or_assoc]

/-- The environment gives no chunk size beside its project. -/
theorem lookup_projectLayer_chunkSize (e : Environment) :
    e.projectLayer.lookup "chunk_size" = none := by
  rw [Environment.projectLayer]
  cases e.projectId <;> rfl

/-- The environment gives no project beside its chunk size. -/
theorem lookup_chunkSizeLayer_projectId (e : Environment) :
    e.chunkSizeLayer.1.lookup "project_id" = none := by
  rw [Environment.chunkSizeLayer]
  cases e.chunkSize with
  | none => rfl
  | some written =>
    dsimp only
    cases ByteQuantity.parseText written <;> rfl

/-- The merged layers give the chunk size in force. -/
theorem SizeInForce.lookup_merged {size : Int} (inForce : SizeInForce e base overrides size) :
    ∃ v, (merged e base overrides).lookup "chunk_size" = some v ∧ v.integer? = some size := by
  rw [Config.lookup_merged, lookup_projectLayer_chunkSize]
  cases inForce with
  | @overridden v _ given integer =>
    rw [given]
    exact ⟨v, rfl, integer⟩
  | @set written size absent given read =>
    have set : e.chunkSizeLayer.1 = [("chunk_size", .int size)] := by
      simp only [Environment.chunkSizeLayer, given, read]
    rw [absent, set]
    exact ⟨.int size, rfl, rfl⟩
  | base absent unread =>
    have silent : e.chunkSizeLayer.1 = [] := by
      rw [Environment.chunkSizeLayer]
      cases given : e.chunkSize with
      | none => rfl
      | some written =>
        obtain ⟨fault, read⟩ := unread written given
        simp only [read]
    rw [absent, silent]
    exact ⟨.int base.chunkSize.bytes, rfl, rfl⟩

/-- The merged layers give the project in force. -/
theorem ProjectInForce.lookup_merged {project : Option String}
    (inForce : ProjectInForce e base overrides project) :
    (merged e base overrides).lookup "project_id" = some (.optionalText project) := by
  rw [Config.lookup_merged, lookup_chunkSizeLayer_projectId]
  cases inForce with
  | overridden given =>
    rw [given]
    rfl
  | set absent given =>
    rw [absent, Environment.projectLayer, given]
    rfl
  | base absent unset =>
    rw [absent, Environment.projectLayer, unset]
    rfl

/-! ### Validating -/

/-- The configuration that a chunk size and a project make up, if the chunk size is valid. -/
def ofValues (size : Int) (project : Option String) : Except Report Config :=
  match ChunkSize.ofInt size with
  | .ok chunkSize => .ok ⟨chunkSize, project⟩
  | .error fault => .error [⟨["chunk_size"], .chunkSize fault⟩]

/-- An integer is read as a chunk size, if it is a valid one. -/
theorem chunkSize_of_integer? {v : Value} {size : Int} (integer : v.integer? = some size) :
    Field.chunkSize v = (ChunkSize.ofInt size).mapError .chunkSize := by
  have read : Field.integer v = .ok size := by
    cases v with
    | int n | bool b =>
      obtain rfl := Option.some.inj integer
      rfl
    | null | float x | text s | bytes b | list items | object members => contradiction
  rw [Field.chunkSize, read]
  dsimp only
  cases ChunkSize.ofInt size <;> rfl

/-- The outcome depends on the values in force only. -/
theorem resolve_fst {size : Int} {project : Option String}
    (sizeInForce : SizeInForce e base overrides size)
    (projectInForce : ProjectInForce e base overrides project) :
    (resolve e base overrides).1 = ofValues size project := by
  obtain ⟨v, given, integer⟩ := sizeInForce.lookup_merged
  have merged : (resolve e base overrides).1 = ofFields (merged e base overrides) := rfl
  rw [merged, ofFields, Field.optional_of_lookup given,
    Field.optional_of_lookup projectInForce.lookup_merged, chunkSize_of_integer? integer,
    Field.nullable_text, ofValues]
  cases ChunkSize.ofInt size <;> rfl

/-- Values make up a configuration just when the chunk size is a positive multiple of the unit. -/
theorem ofValues_cases (size : Int) (project : Option String) :
    (∃ chunkSize : ChunkSize, (0 < size ∧ size % chunkUnit = 0) ∧ chunkSize.bytes = size ∧
      ofValues size project = .ok ⟨chunkSize, project⟩) ∨
    (¬(0 < size ∧ size % chunkUnit = 0) ∧
      ofValues size project = .error [⟨["chunk_size"], .chunkSize (.notMultiple size)⟩]) := by
  have unit : (chunkUnit : Int) = 262144 := rfl
  rw [ofValues, ChunkSize.ofInt]
  by_cases valid : 0 < size ∧ size.toNat % chunkUnit = 0
  · left
    rw [dif_pos valid]
    obtain ⟨positive, aligned⟩ := valid
    have bytes : (size.toNat : Int) = size := Int.toNat_of_nonneg (by omega)
    refine ⟨_, ⟨positive, ?_⟩, bytes, rfl⟩
    rw [chunkUnit] at aligned
    rw [unit]
    omega
  · right
    rw [dif_neg valid]
    refine ⟨fun other => valid ⟨other.1, ?_⟩, rfl⟩
    obtain ⟨positive, aligned⟩ := other
    rw [unit] at aligned
    rw [chunkUnit]
    omega

/-! ### Reporting -/

/-- What is reported is a chunk size that is set in the environment and cannot be read. -/
theorem resolve_snd (e : Environment) (base : Config) (overrides : Fields) :
    (∃ written fault, e.chunkSize = some written ∧
      ByteQuantity.parseText written = .error fault ∧
      (resolve e base overrides).2 = [.settingIgnored Environment.chunkSizeName written]) ∨
    ((∀ written, e.chunkSize = some written → ∃ size, ByteQuantity.parseText written = .ok size) ∧
      (resolve e base overrides).2 = []) := by
  have events : (resolve e base overrides).2 = e.chunkSizeLayer.2 := rfl
  rw [events, Environment.chunkSizeLayer]
  cases given : e.chunkSize with
  | none =>
    refine .inr ⟨fun written eq => ?_, rfl⟩
    contradiction
  | some written =>
    cases read : ByteQuantity.parseText written with
    | ok size =>
      refine .inr ⟨fun other eq => ⟨size, ?_⟩, by simp only [read]⟩
      rw [← Option.some.inj eq, read]
    | error fault => exact .inl ⟨written, fault, rfl, read, by simp only [read]⟩

/-- Overrides of the right types leave a chunk size and a project in force. The configuration is
accepted just when the chunk size in force is a positive multiple of 256 KiB, and then it consists
of the values in force; otherwise the chunk size is reported. Whatever else the layers hold plays no
part in that. One warning is given if a chunk size that is set in the environment cannot be read,
and nothing else is told. -/
theorem resolve_inForce (typed : AreTyped overrides) (e : Environment) (given : Option Config) :
    (∃ size, SizeInForce e (given.getD {}) overrides size) ∧
    (∃ project, ProjectInForce e (given.getD {}) overrides project) ∧
    (∀ size project, SizeInForce e (given.getD {}) overrides size →
      ProjectInForce e (given.getD {}) overrides project →
      ((∃ c, (resolve e (given.getD {}) overrides).1 = .ok c) ↔ 0 < size ∧ size % 262144 = 0) ∧
      (∀ c, (resolve e (given.getD {}) overrides).1 = .ok c →
        c.chunkSize.bytes = size ∧ c.projectId = project) ∧
      (∀ report, (resolve e (given.getD {}) overrides).1 = .error report →
        report = [⟨["chunk_size"], .chunkSize (.notMultiple size)⟩]) ∧
      ∀ e' base' overrides', SizeInForce e' base' overrides' size →
        ProjectInForce e' base' overrides' project →
        (resolve e' base' overrides').1 = (resolve e (given.getD {}) overrides).1) ∧
    ((∃ written fault, e.chunkSize = some written ∧
        ByteQuantity.parseText written = .error fault ∧
        (resolve e (given.getD {}) overrides).2.map Event.line =
          ["WARNING Ignoring unparsable BLOBCHANNEL_CHUNK_SIZE=" ++ Text.quote written]) ∨
      ((∀ written, e.chunkSize = some written →
          ∃ size, ByteQuantity.parseText written = .ok size) ∧
        (resolve e (given.getD {}) overrides).2 = [])) := by
  obtain ⟨size?, project?⟩ := exists_inForce typed e (given.getD {})
  refine ⟨size?, project?, ?values, ?events⟩
  case values =>
    intro size project sizeInForce projectInForce
    have outcome := resolve_fst sizeInForce projectInForce
    refine ⟨?accepted, ?made, ?refused, ?masked⟩
    case accepted =>
      rw [outcome]
      obtain ⟨chunkSize, valid, -, eq⟩ | ⟨invalid, eq⟩ := ofValues_cases size project
      · exact ⟨fun _ => valid, fun _ => ⟨_, eq⟩⟩
      · refine ⟨?_, fun valid => absurd valid invalid⟩
        rintro ⟨c, accepted⟩
        rw [eq] at accepted
        contradiction
    case made =>
      intro c accepted
      rw [outcome] at accepted
      obtain ⟨chunkSize, -, bytes, eq⟩ | ⟨-, eq⟩ := ofValues_cases size project
      · rw [eq] at accepted
        obtain rfl := Except.ok.inj accepted
        exact ⟨bytes, rfl⟩
      · rw [eq] at accepted
        contradiction
    case refused =>
      intro report refused
      rw [outcome] at refused
      obtain ⟨chunkSize, -, -, eq⟩ | ⟨-, eq⟩ := ofValues_cases size project
      · rw [eq] at refused
        contradiction
      · rw [eq] at refused
        exact (Except.error.inj refused).symm
    case masked =>
      intro e' base' overrides' sizeInForce' projectInForce'
      rw [outcome, resolve_fst sizeInForce' projectInForce']
  case events =>
    obtain ⟨written, fault, set, unread, events⟩ | silent :=
      resolve_snd e (given.getD {}) overrides
    · refine .inl ⟨written, fault, set, unread, ?_⟩
      rw [events, List.map_singleton, Environment.line_settingIgnored]
    · exact .inr silent

/-- Overrides mask a setting that cannot be read, which is reported, and two projects below them. -/
theorem resolve_inForce_masked :
    ∃ (overrides : Fields) (base c : Config),
      overrides = [("chunk_size", .int 524288), ("project_id", .null), ("colour", .bool true)] ∧
      base.projectId = some "base" ∧ AreTyped overrides ∧
      (resolve ⟨some "lots", some "env"⟩ base overrides).1 = .ok c ∧
      (c.chunkSize.bytes : Int) = 524288 ∧ c.projectId = none ∧
      (resolve ⟨some "lots", some "env"⟩ base overrides).2.map Event.line =
        ["WARNING Ignoring unparsable BLOBCHANNEL_CHUNK_SIZE='lots'"] := by
  obtain ⟨overrides, eq⟩ : ∃ overrides : Fields, overrides =
      [("chunk_size", .int 524288), ("project_id", .null), ("colour", .bool true)] := ⟨_, rfl⟩
  have size : overrides.lookup "chunk_size" = some (.int 524288) := by rw [eq]; rfl
  have project : overrides.lookup "project_id" = some (.optionalText none) := by rw [eq]; rfl
  have typed : AreTyped overrides := by
    refine ⟨fun v given => ⟨524288, ?_⟩, fun v given => ⟨none, ?_⟩⟩
    · rw [← Option.some.inj (size.symm.trans given)]
      rfl
    · exact (Option.some.inj (project.symm.trans given)).symm
  have malformed : ByteQuantity.parseText "lots" = .error (.malformed "'lots'") := by rfl
  obtain ⟨-, -, values, events⟩ := resolve_inForce typed ⟨some "lots", some "env"⟩
    (some ⟨.default, some "base"⟩)
  obtain ⟨accepted, made, -⟩ := values 524288 none (.overridden size rfl) (.overridden project)
  obtain ⟨c, ok⟩ := accepted.mpr (by decide)
  obtain ⟨bytes, projectId⟩ := made c ok
  refine ⟨overrides, ⟨.default, some "base"⟩, c, eq, rfl, typed, ok, bytes, projectId, ?_⟩
  obtain ⟨written, fault, set, -, lines⟩ | ⟨read, -⟩ := events
  · obtain rfl := Option.some.inj set
    exact lines
  · obtain ⟨n, read⟩ := read "lots" rfl
    rw [malformed] at read
    contradiction

end Config

end ResumableUpload
