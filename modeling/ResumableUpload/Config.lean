import ResumableUpload.ByteQuantity
import ResumableUpload.Event
import ResumableUpload.Field

/-!
# Configuration

The configuration of channels is put together from layers: a base, the settings of the environment
over it, and explicit overrides over both. Only the merged result is validated, so a value that is
masked by a higher layer does no harm. A chunk size in the environment is written as a byte
quantity; one that cannot be read is reported and ignored.

## Main definitions

* `Config` — a chunk size and a project, read by `Config.ofFields`.
* `Environment` — the settings of the environment.
* `Environment.layer` — the values that the environment sets.
* `Config.resolve` — the effective configuration.
-/

namespace ResumableUpload

/-- The configuration of channels: `ChannelConfig`. -/
structure Config where
  /-- The size of the chunks that are sent. -/
  chunkSize : ChunkSize := .default
  /-- The project that uploads are billed to. -/
  projectId : Option String := none
deriving DecidableEq, Inhabited

namespace Config

/-- The configuration described by named values; names that are no fields are ignored. -/
def ofFields (fields : Fields) : Except Report Config :=
  let chunkSize := Field.optional fields "chunk_size" ChunkSize.default Field.chunkSize
  let projectId := Field.optional fields "project_id" none (Field.nullable Field.text)
  match both chunkSize projectId with
  | .error report => .error report
  | .ok (chunkSize, projectId) => .ok ⟨chunkSize, projectId⟩

/-- The configuration as named values. -/
def layer (c : Config) : Fields :=
  [("chunk_size", .int c.chunkSize.bytes), ("project_id", .optionalText c.projectId)]

end Config

/-- The settings of the environment. -/
structure Environment where
  /-- The written chunk size. -/
  chunkSize : Option String := none
  /-- The project. -/
  projectId : Option String := none
deriving DecidableEq, Repr, Inhabited

namespace Environment

/-- The name of the chunk size in the environment, as in `_ENV_MAP`. -/
def chunkSizeName : String := "BLOBCHANNEL_CHUNK_SIZE"

/-- The name of the project in the environment, as in `_ENV_MAP`. -/
def projectIdName : String := "BLOBCHANNEL_PROJECT_ID"

/-- The settings among the variables of an environment. -/
def ofVariables (lookup : String → Option String) : Environment :=
  ⟨lookup chunkSizeName, lookup projectIdName⟩

/-- The chunk size that the environment sets, and the report of one that cannot be read: the part of
`_read_env_overrides` that goes through `parse_bytes`. -/
def chunkSizeLayer (e : Environment) : Fields × List Event :=
  match e.chunkSize with
  | none => ([], [])
  | some s =>
    match ByteQuantity.parseText s with
    | .ok n => ([("chunk_size", .int n)], [])
    | .error _ => ([], [.settingIgnored chunkSizeName s])

/-- The project that the environment sets. -/
def projectLayer (e : Environment) : Fields :=
  match e.projectId with
  | none => []
  | some s => [("project_id", .text s)]

/-- The values that the environment sets, and what is to be reported about it:
`_read_env_overrides`. -/
def layer (e : Environment) : Fields × List Event :=
  let (chunkSize, events) := e.chunkSizeLayer
  (chunkSize ++ e.projectLayer, events)

end Environment

namespace Config

/-- The effective configuration, and what is to be reported about the environment:
`resolve_effective_config`. -/
def resolve (e : Environment) (base : Config) (overrides : Fields) :
    Except Report Config × List Event :=
  let (settings, events) := e.layer
  (ofFields (base.layer ++ settings ++ overrides), events)

/-- A configuration that nothing lies over is effective. -/
theorem resolve_base (base : Config) : resolve ⟨none, none⟩ base [] = (.ok base, []) := by
  rcases base with ⟨size, _ | project⟩ <;>
    simp [resolve, Environment.layer, Environment.chunkSizeLayer, Environment.projectLayer, layer,
      ofFields, Field.optional, Field.reportAt, Field.chunkSize, Field.integer, Field.nullable,
      Field.text, Fields.lookup, Value.optionalText, both, Except.map]

end Config

end ResumableUpload
