import ResumableUpload.Config
import ResumableUpload.Field
import ResumableUpload.Json.Writer

/-!
# Service options

Channels reach the storage through **service options**: a project, and the endpoint that handles of
the storage are created for. Each options object owns the handle that is created with it, so it has
an identity; two options are equal when they say the same.

## Main definitions

* `ServiceOptions` — options of a service, read by `ServiceOptions.ofFields`.
* `ServiceOptions.ofConfig` — the options that a configuration asks for.
* `ServiceOptions.agrees` — equality, which does not see the identity.
* `ServiceOptions.literal`, `ServiceOptions.summary`, `ServiceOptions.toJson` — its forms.
-/

namespace ResumableUpload

/-- Options of a service: `StorageOptions`. The endpoint stands for what `rpc_factory` creates. -/
structure ServiceOptions where
  /-- Which options these are; the handle of the service belongs to it. -/
  identity : Nat
  /-- The project that uploads are billed to. -/
  projectId : Option String
  /-- The endpoint that handles are created for. -/
  endpoint : String
deriving DecidableEq, Repr, Inhabited

namespace ServiceOptions

/-- What can create handles is only ever given directly, as the endpoint; a value cannot stand for
it. -/
def factory (fields : Fields) : Option String → Except Report String
  | some endpoint => .ok endpoint
  | none => Field.required fields "rpc_factory" fun _ => .error .callable

/-- The options described by named values, for an endpoint if one is given. -/
def ofFields (identity : Nat) (endpoint : Option String) (fields : Fields) :
    Except Report ServiceOptions :=
  match both (Field.optional fields "project_id" none (Field.nullable Field.text))
      (factory fields endpoint) with
  | .error report => .error report
  | .ok (projectId, endpoint) => .ok ⟨identity, projectId, endpoint⟩

/-- The options for an endpoint that a configuration asks for: `from_config`. Without a
configuration the environment is resolved. -/
def ofConfig (identity : Nat) (endpoint : String) (config : Option Config) (e : Environment) :
    Except Report ServiceOptions × List Event :=
  match config with
  | some config => (.ok ⟨identity, config.projectId, endpoint⟩, [])
  | none =>
    match Config.resolve e {} [] with
    | (.ok config, events) => (.ok ⟨identity, config.projectId, endpoint⟩, events)
    | (.error report, events) => (.error report, events)

/-- Whether two options say the same, as `__eq__` of `StorageOptions` has it; which of them has a
handle plays no part. -/
def agrees (a b : ServiceOptions) : Bool := a.projectId = b.projectId && a.endpoint = b.endpoint

/-- The fields as messages show them. -/
def summary (o : ServiceOptions) : String :=
  s!"project_id={(Value.optionalText o.projectId).literal}"

/-- The form in which messages show the options. -/
def literal (o : ServiceOptions) : String := "StorageOptions(" ++ o.summary ++ ")"

/-- The options as a JSON document; the endpoint is not part of it. -/
def toJson (o : ServiceOptions) : String :=
  Json.writeObject [("project_id", Json.writeOptionalText o.projectId)]

/-- Options agree with themselves. -/
@[simp] theorem agrees_self (o : ServiceOptions) : o.agrees o = true := by simp [agrees]

end ServiceOptions

end ResumableUpload
