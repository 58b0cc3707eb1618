import Mailroom.Delivery.StorageConfig
import Mailroom.Store.Basic
import Mailroom.Delivery.Target
import Mailroom.Delivery.Transaction

/-! # The storage target

The module `sql` stores mail: a `Storage` is a mail store with rules for deliveries, rules for
logins, a host name and a directory for message bodies.  `Storage.open` opens the store that the
configuration names; `Storage.around` takes one that is open already. -/

namespace Mailroom

/-- What all modules share. -/
structure PipelineContext where
  stateDir : String
  hostname? : Option String
deriving DecidableEq, Repr

/-- A storage target over a store. -/
structure Storage (σ δ : Type) where
  instanceName : String
  rules : DeliveryRules
  loginPerDomain : Bool
  loginDomains : List String
  hostname : String
  sizeLimit : SizeLimit
  bodyDirectory : String
  backend : Backend σ δ

namespace Storage

variable {σ δ : Type}

/-- The name of the module. -/
def moduleName : String := "sql"

/-- The extensions of the mailbox protocol that the storage supports. -/
def mailboxExtensions : List String := ["APPENDLIMIT", "MOVE", "CHILDREN", "SPECIAL-USE"]

/-- Why a storage target cannot be opened. -/
inductive OpenFault where
  /-- There is a driver among the arguments, but nothing after it. -/
  | missingDsn
  /-- No driver is configured. -/
  | driverRequired
  /-- It is not configured where the store is. -/
  | dsnRequired
  /-- There is no such driver. -/
  | unsupportedDriver (driver : String)
  /-- The body directory cannot be made. -/
  | bodyDirectory (path : String) (fault : IoFault)
  /-- Logins need a domain, but none may log in. -/
  | noLoginDomains
  /-- No host name is configured. -/
  | noHostname
deriving DecidableEq, Repr

/-- What a log shows for a target that cannot be opened. -/
def OpenFault.message : OpenFault → String
  | missingDsn => "specify at least driver and DSN"
  | driverRequired => "driver is required"
  | dsnRequired => "dsn is required"
  | unsupportedDriver driver => "unsupported driver " ++ driver
  | bodyDirectory path fault => "failed to create " ++ path ++ ": " ++ fault.message
  | noLoginDomains => "auth_domains must be set if auth_perdomain is used"
  | noHostname => "hostname is not specified"

/-- The failure of an instance. -/
def openFailure (instanceName : String) (fault : OpenFault) : Failure :=
  .configuration (moduleName ++ " " ++ instanceName ++ ": " ++ fault.message)

/-- The kinds of store that can be opened by name. -/
def drivers : List String := ["memory"]

/-- The options with the driver and the place of the store from the arguments, if there are
any. -/
def applyArguments (config : StorageConfig) : List String → Except OpenFault StorageConfig
  | [] => .ok config
  | [_] => .error .missingDsn
  | driver :: words => .ok { config with driver, dsn := " ".intercalate words }

/-- The options with the arguments, if they name a store that can be opened. -/
def chooseStore (config : StorageConfig) (args : List String) :
    Except OpenFault StorageConfig := do
  let config ← applyArguments config args
  if config.driver.isEmpty then throw .driverRequired
  if config.dsn.isEmpty then throw .dsnRequired
  if drivers.contains config.driver then return config
  else throw (.unsupportedDriver config.driver)

/-- The directory for message bodies.  A relative path is seen from the state directory; without a
path the directory is named for the instance. -/
def bodyDirectoryPath (instanceName : String) (configured? : Option String)
    (context : PipelineContext) : Except Failure String :=
  match configured? with
  | some path => .ok (Path.join context.stateDir path)
  | none =>
    if instanceName.isEmpty then
      .error (.configuration "sql: need explicit fsstore location for inline definition")
    else .ok (Path.join context.stateDir ("sql-" ++ instanceName ++ "-fsstore"))

/-- Makes the directory for message bodies. -/
def prepareBodyDirectory (instanceName : String) (configured? : Option String)
    (context : PipelineContext) : Act Host (Except Failure String) :=
  match bodyDirectoryPath instanceName configured? context with
  | .error failure => Act.pure (.error failure)
  | .ok path =>
    (Host.onDisk (Act.updating (·.makeDirectories path))).bind fun
      | .ok () => Act.pure (.ok path)
      | .error fault =>
        (Act.report .warn "Failed to create fsstore directory"
          [("path", path), ("error", fault.message)]).bind fun _ =>
            Act.pure (.error (openFailure instanceName (.bodyDirectory path fault)))

/-- The target over an open store. -/
def build (instanceName : String) (config : StorageConfig) (context : PipelineContext)
    (bodyDirectory : String) (backend : Backend σ δ) : Act Host (Except Failure (Storage σ δ)) :=
  if config.loginPerDomain && config.loginDomains.isEmpty then
    Act.pure (.error (openFailure instanceName .noLoginDomains))
  else match config.hostname? <|> context.hostname? with
    | none => Act.pure (.error (openFailure instanceName .noHostname))
    | some hostname =>
      (Act.report .info "Storage target initialized" [
        ("instance", instanceName), ("driver", backend.driver), ("hostname", hostname),
        ("appendlimit", config.sizeLimit.display), ("fsstore", bodyDirectory),
        ("storage_perdomain", if config.perDomain then "true" else "false")]).bind fun _ =>
          Act.pure <| .ok {
            instanceName, hostname, bodyDirectory, backend
            rules := ⟨config.perDomain, config.junkMailbox, config.debug⟩
            loginPerDomain := config.loginPerDomain
            loginDomains := config.loginDomains
            sizeLimit := config.sizeLimit }

/-- The target around a store that is open already. -/
def around (instanceName : String) (config : StorageConfig) (context : PipelineContext)
    (backend : Backend σ δ) : Act Host (Except Failure (Storage σ δ)) :=
  (prepareBodyDirectory instanceName config.bodyDirectory? context).andThen fun path =>
    build instanceName config context path backend

/-- Opens the store that options and arguments name; the answer holds the target and the options
of the store.  Message bodies are kept in the directory for them. -/
def «open» (instanceName : String) (args : List String) (config : StorageConfig)
    (context : PipelineContext) :
    Act Host (Except Failure (Storage Store StoreDelivery × StoreOptions)) :=
  match chooseStore config args with
  | .error fault => Act.pure (.error (openFailure instanceName fault))
  | .ok config =>
    (prepareBodyDirectory instanceName config.bodyDirectory? context).andThen fun path =>
      (build instanceName config context path Store.backend).andThen fun storage =>
        Act.pure (.ok (storage, ⟨config.sizeLimit.bytes?, some path⟩))

/-- The same target over another store. -/
def withBackend {τ ε : Type} (storage : Storage σ δ) (backend : Backend τ ε) : Storage τ ε :=
  { instanceName := storage.instanceName
    rules := storage.rules
    loginPerDomain := storage.loginPerDomain
    loginDomains := storage.loginDomains
    hostname := storage.hostname
    sizeLimit := storage.sizeLimit
    bodyDirectory := storage.bodyDirectory
    backend := backend }

/-! ### Logins -/

/-- Whether a login name and a password belong together. -/
def checkPlain (storage : Storage σ δ) (username password : String) :
    Act σ (Except Failure Bool) :=
  match Account.ofLogin? username storage.loginPerDomain storage.loginDomains with
  | none =>
    (Act.report .debug "Login rejected by domain policy" [("username", username)]).bind fun _ =>
      Act.pure (.ok false)
  | some account => (storage.backend.checkPlain account.name password).mapError Failure.backend

/-- The account of a login name. -/
def loginStorageAccount (storage : Storage σ δ) (username : String) :
    Except AddressFault Account :=
  if storage.rules.perDomain && !username.toList.contains '@' then .error .loginDomainRequired
  else Account.ofAddress username storage.rules.perDomain

/-- The account that stores mail for a login name, created if it does not exist. -/
def getOrCreateUser (storage : Storage σ δ) (username : String) :
    Act σ (Except Failure StoreUser) :=
  match storage.loginStorageAccount username with
  | .error fault => Act.pure (.error fault.failure)
  | .ok account => (storage.backend.getOrCreateUser account.name).mapError Failure.backend

/-- The storage as a delivery target. -/
def target (storage : Storage σ δ) : Target σ (Transaction δ) where
  name := moduleName
  instanceName := storage.instanceName
  start := Transaction.start storage.backend storage.rules
  addRcpt := Transaction.addRcpt storage.backend
  body := Transaction.body storage.backend
  abort := Transaction.abort storage.backend
  commit := Transaction.commit storage.backend

end Storage

end Mailroom
