import ResumableUpload.Config

/-!
# The values in force

Chunk size and project are each given in up to three layers, and the highest layer that gives one
puts it in force: the overrides above the environment, and this above the base. An override gives a
value by being there, be it the value that there is no project. The environment gives a chunk size
only if it can be read.

## Main definitions

* `Value.integer?` — the integer that a value is.
* `Config.AreTyped` — overrides that give an integer and a text where they are asked for.
* `Config.SizeInForce`, `Config.ProjectInForce` — the values in force.
-/

namespace ResumableUpload

/-- The integer that a value is. The truth values are integers, too: 0 and 1. -/
def Value.integer? : Value → Option Int
  | int n => some n
  | bool b => some (if b then 1 else 0)
  | _ => none

namespace Config

/-- If the overrides give a chunk size it is an integer, and if they give a project it is a text or
nothing. What they give under other names may be anything. -/
structure AreTyped (overrides : Fields) : Prop where
  /-- The chunk size. -/
  chunkSize : ∀ v, overrides.lookup "chunk_size" = some v → ∃ n, v.integer? = some n
  /-- The project. -/
  projectId : ∀ v, overrides.lookup "project_id" = some v → ∃ project, v = .optionalText project

/-- The chunk size in force, which need not be a valid one. -/
inductive SizeInForce (e : Environment) (base : Config) (overrides : Fields) : Int → Prop
  /-- It is overridden. -/
  | overridden {v : Value} {size : Int} (given : overrides.lookup "chunk_size" = some v)
    (integer : v.integer? = some size) : SizeInForce e base overrides size
  /-- It is set in the environment, and can be read. -/
  | set {written : String} {size : Nat} (absent : overrides.lookup "chunk_size" = none)
    (given : e.chunkSize = some written) (read : ByteQuantity.parseText written = .ok size) :
    SizeInForce e base overrides size
  /-- Nothing that can be read lies over the base. -/
  | base (absent : overrides.lookup "chunk_size" = none)
    (unread : ∀ written, e.chunkSize = some written →
      ∃ fault, ByteQuantity.parseText written = .error fault) :
    SizeInForce e base overrides base.chunkSize.bytes

/-- The project in force. -/
inductive ProjectInForce (e : Environment) (base : Config) (overrides : Fields) :
    Option String → Prop
  /-- It is overridden, perhaps by none. -/
  | overridden {project : Option String}
    (given : overrides.lookup "project_id" = some (.optionalText project)) :
    ProjectInForce e base overrides project
  /-- It is set in the environment. -/
  | set {project : String} (absent : overrides.lookup "project_id" = none)
    (given : e.projectId = some project) : ProjectInForce e base overrides (some project)
  /-- Nothing lies over the base. -/
  | base (absent : overrides.lookup "project_id" = none) (unset : e.projectId = none) :
    ProjectInForce e base overrides base.projectId

end Config

end ResumableUpload
