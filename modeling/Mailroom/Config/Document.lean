import Mailroom.Config.Setting
import Mailroom.Host.FileSystem
import Mailroom.Toml.Document

/-! # The configuration of a pipeline

A configuration is a TOML document with a state directory, a host name and a table of module
instances.  Each instance names its module and may have inline arguments; all else in its table
are options that the module itself understands.  What is wrong with a document is not said in
detail: one `Failure` stands for every fault (`documentFailure`). -/

namespace Mailroom

/-- The configuration of a module instance. -/
structure InstanceConfig where
  /-- The name of the module. -/
  module : String
  /-- The inline arguments. -/
  args : List String := []
  /-- The options of the module. -/
  options : Toml.Table := {}

/-- The configuration of a pipeline. -/
structure PipelineConfig where
  /-- The directory that relative paths start from. -/
  stateDir : String := "/var/lib/mailstage"
  /-- The name of the host. -/
  hostname? : Option String := none
  /-- The configured instances by name. -/
  modules : NameMap InstanceConfig := {}

namespace Config

/-- The failure of a document that is no configuration. -/
def documentFailure : Failure := .configuration "TOML parse error"

/-- An instance: `type` must be there, `args` may be. -/
def instanceConfig : Decoder InstanceConfig
  | .table _ table => do
    let some kind := table.get? "type" | .error (.refused "missing field `type`")
    let module ← text kind
    let args ← match table.get? "args" with
      | some args => texts args
      | none => .ok []
    return { module, args, options := (table.erase "type").erase "args" }
  | value => .error (.wrongType value.shown "a table")

/-- The instances by name. -/
def modules : Decoder (NameMap InstanceConfig)
  | .table _ table => do
    let configs ← table.entries.mapM fun (name, value) => do return (name, ← instanceConfig value)
    return ⟨configs⟩
  | value => .error (.wrongType value.shown "a table")

/-- The settings of a pipeline. -/
def pipelineSettings : List (Setting PipelineConfig) := [
  .of "state_dir" path fun stateDir c => { c with stateDir },
  .of "hostname" text fun hostname c => { c with hostname? := some hostname },
  .of "modules" modules fun modules c => { c with modules }]

/-- The configuration that a table denotes. -/
def ofTable (table : Toml.Table) : Except (String × ValueFault) PipelineConfig :=
  table.entries.foldlM (applyEntry pipelineSettings) {}

/-- Reads a configuration. -/
def parse (document : String) : Except Failure PipelineConfig :=
  match Toml.parse? document with
  | none => .error documentFailure
  | some table => (ofTable table).mapError fun _ => documentFailure

/-- Reads a configuration from a file. -/
def load (disk : FileSystem) (path : String) : Except Failure PipelineConfig :=
  match disk.readText path with
  | .ok document => parse document
  | .error fault => .error (.configuration ("failed to read " ++ path ++ ": " ++ fault.message))

end Config

end Mailroom
