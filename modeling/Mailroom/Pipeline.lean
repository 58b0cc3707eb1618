import Mailroom.Config.Document
import Mailroom.Delivery.StorageTarget
import Mailroom.Dkim.MessageSigner

/-! # The modules of a pipeline

A configuration names modules (`ModuleType`).  `buildInstance` sets up one configured instance;
`buildAll` sets up all of them in the order of their names and stops at the first failure. -/

namespace Mailroom

/-- What a module can do in a pipeline. -/
inductive Capability where
  | modifier
  | deliveryTarget
deriving DecidableEq, Repr

/-- What a log calls a capability. -/
def Capability.name : Capability → String
  | modifier => "modifier"
  | deliveryTarget => "delivery target"

/-- The modules that can be configured. -/
inductive ModuleType where
  /-- Signs messages. -/
  | signer
  /-- Stores messages. -/
  | storage
deriving DecidableEq, Repr

namespace ModuleType

/-- Every module. -/
def all : List ModuleType := [signer, storage]

/-- The name in configurations. -/
def name : ModuleType → String
  | signer => Dkim.MessageSigner.moduleName
  | storage => Storage.moduleName

/-- What the module can do. -/
def capability : ModuleType → Capability
  | signer => .modifier
  | storage => .deliveryTarget

/-- The module with this name. -/
def ofName? (name : String) : Option ModuleType := all.find? (·.name == name)

end ModuleType

/-- A module instance that was set up. -/
inductive ModuleInstance where
  | signer (signer : Dkim.MessageSigner)
  | storage (storage : Storage Store StoreDelivery) (options : StoreOptions)

namespace ModuleInstance

/-- The module of an instance. -/
def type : ModuleInstance → ModuleType
  | signer _ => .signer
  | storage _ _ => .storage

/-- The name of an instance. -/
def name : ModuleInstance → String
  | signer s => s.instanceName
  | storage s _ => s.instanceName

end ModuleInstance

/-- Understands the options of an instance. -/
def InstanceConfig.read {C : Type} (config : InstanceConfig) (known : List (Config.Setting C))
    (usual : C) (instanceName : String) : Except Failure C :=
  Config.readSettings known usual (config.module ++ " " ++ instanceName) config.options

/-- Understands the options of an instance that a text denotes. -/
def readOptionText {C : Type} (module : ModuleType) (known : List (Config.Setting C)) (usual : C)
    (instanceName text : String) : Except Failure C :=
  match Toml.parse? text with
  | none => .error Config.documentFailure
  | some options => InstanceConfig.read ⟨module.name, [], options⟩ known usual instanceName

/-- Sets up a signer.  A relative template of its key path starts from the state directory. -/
def buildSigner (instanceName : String) (config : InstanceConfig) (context : PipelineContext) :
    Act Host (Except Failure ModuleInstance) :=
  match config.read Dkim.signerSettings {} instanceName with
  | .error failure => Act.pure (.error failure)
  | .ok options =>
    let options := { options with keyPath := Path.join context.stateDir options.keyPath }
    (Dkim.MessageSigner.open instanceName config.args options).andThen fun signer =>
      Act.pure (.ok (.signer signer))

/-- Sets up a storage target. -/
def buildStorage (instanceName : String) (config : InstanceConfig) (context : PipelineContext) :
    Act Host (Except Failure ModuleInstance) :=
  match config.read storageSettings {} instanceName with
  | .error failure => Act.pure (.error failure)
  | .ok options =>
    (Storage.open instanceName config.args options context).andThen fun (storage, options) =>
      Act.pure (.ok (.storage storage options))

/-- Sets up one instance. -/
def buildInstance (instanceName : String) (config : InstanceConfig) (context : PipelineContext) :
    Act Host (Except Failure ModuleInstance) :=
  match ModuleType.ofName? config.module with
  | none =>
    Act.pure (.error (.configuration (instanceName ++ ": unknown module " ++ config.module)))
  | some .signer => buildSigner instanceName config context
  | some .storage => buildStorage instanceName config context

/-- The instances of a pipeline by name. -/
abbrev Instances : Type := NameMap ModuleInstance

namespace Instances

/-- The signer with this name. -/
def signer? (instances : Instances) (name : String) : Option Dkim.MessageSigner :=
  match instances.get? name with
  | some (.signer s) => some s
  | _ => none

/-- The storage target with this name. -/
def storage? (instances : Instances) (name : String) : Option (Storage Store StoreDelivery) :=
  match instances.get? name with
  | some (.storage s _) => some s
  | _ => none

/-- The names of the instances with a capability. -/
def namesOf (instances : Instances) (capability : Capability) : List String :=
  (instances.entries.filter fun e => e.2.type.capability = capability).map Prod.fst

end Instances

/-- Sets up instances one after the other, besides those that were set up before. -/
def buildEach (context : PipelineContext) (built : Instances) :
    List (String × InstanceConfig) → Act Host (Except Failure Instances)
  | [] => Act.pure (.ok built)
  | (name, config) :: rest =>
    (buildInstance name config context).andThen fun made =>
      (Act.report .info "Module instance created" [("instance", name),
        ("module", config.module), ("kind", made.type.capability.name)]).bind fun _ =>
          buildEach context (built.put name made) rest

/-- What all modules of a pipeline share. -/
def PipelineConfig.context (config : PipelineConfig) : PipelineContext :=
  ⟨config.stateDir, config.hostname?⟩

/-- Sets up every instance of a configuration. -/
def buildAll (config : PipelineConfig) : Act Host (Except Failure Instances) :=
  buildEach config.context {} config.modules.entries

end Mailroom
