import Mailroom.Dkim.KeyFile
import Mailroom.Dkim.Signing
import Mailroom.Dkim.SignerConfig
import Mailroom.Modifier.Basic

/-! # The signing modifier

The module `sign_dkim` puts a signature on top of every message.  A `MessageSigner` is one
configured instance with its key.  `MessageSigner.signature` makes the signature of a message;
`MessageSigner.modifier` is the instance as a `Modifier`.  When signing fails the header stays
as it was. -/

namespace Mailroom.Dkim

/-- A configured signer. -/
structure MessageSigner where
  instanceName : String
  config : SignerConfig
  key : SigningKey
deriving DecidableEq, Repr

/-- Why a signer cannot be set up. -/
inductive SetupFault where
  /-- There are arguments, but not two of them. -/
  | wrongArguments (count : Nat)
  /-- No signing domain is configured. -/
  | noDomain
  /-- No selector is configured. -/
  | noSelector
  /-- The validity is longer than any time. -/
  | expiryOutOfRange (seconds : Nat)
deriving DecidableEq, Repr

/-- What a log shows for a signer that cannot be set up. -/
def SetupFault.message : SetupFault → String
  | wrongArguments count =>
    "expected domain and selector as arguments, got " ++ String.ofList (natDigits count) ++
      " arguments"
  | noDomain => "domain is not specified"
  | noSelector => "selector is not specified"
  | expiryOutOfRange seconds =>
    "sig_expiry of " ++ String.ofList (natDigits seconds) ++ "s is out of range"

namespace MessageSigner

/-- The name of the module. -/
def moduleName : String := "sign_dkim"

/-- The first time that cannot be stated in seconds since the epoch. -/
def endOfTime : Int := Int.pow 2 63

/-! ### Setting up -/

/-- The failure of an instance. -/
def setupFailure (instanceName : String) (fault : SetupFault) : Failure :=
  .configuration (moduleName ++ " " ++ instanceName ++ ": " ++ fault.message)

/-- The signer with a given key. -/
def ofKey (instanceName : String) (config : SignerConfig) (key : SigningKey) :
    Except Failure MessageSigner :=
  if endOfTime ≤ config.expiry.seconds then
    .error (setupFailure instanceName (.expiryOutOfRange config.expiry.seconds))
  else if key.supports config.hash then .ok ⟨instanceName, config, key⟩
  else .error (.key (key.typeName ++ " key cannot sign with " ++ config.hash.name))

/-- The signer with a given key, reported when it is ready. -/
def start (instanceName : String) (config : SignerConfig) (key : SigningKey) :
    Act Host (Except Failure MessageSigner) :=
  match ofKey instanceName config key with
  | .error failure => Act.pure (.error failure)
  | .ok signer =>
    (Act.report .info "DKIM signer initialized" [
      ("instance", instanceName), ("domain", config.domain), ("selector", config.selector),
      ("key_type", key.typeName), ("header_canon", config.headerMode.name),
      ("body_canon", config.bodyMode.name)]).bind fun _ => Act.pure (.ok signer)

/-- The options with domain and selector from the arguments, if there are any. -/
def applyArguments (config : SignerConfig) : List String → Except SetupFault SignerConfig
  | [] => .ok config
  | [domain, selector] => .ok { config with domain, selector }
  | args => .error (.wrongArguments args.length)

/-- The options with the arguments, if they name a key. -/
def chooseKey (config : SignerConfig) (args : List String) : Except SetupFault SignerConfig := do
  let config ← applyArguments config args
  if config.domain.isEmpty then throw .noDomain
  if config.selector.isEmpty then throw .noSelector
  return config

/-- The signer that options and arguments describe; its key is read, or made if there is none. -/
def «open» (instanceName : String) (args : List String) (config : SignerConfig) :
    Act Host (Except Failure MessageSigner) :=
  match chooseKey config args with
  | .error fault => Act.pure (.error (setupFailure instanceName fault))
  | .ok config =>
    let path := keyFilePath config.keyPath config.domain config.selector
    (obtainKey config.domain config.selector path config.newKey).andThen fun key =>
      start instanceName config key

/-! ### Signing -/

/-- On whose behalf a message is signed: its envelope sender, in the signing domain if it has no
domain of its own. -/
def identifier (s : MessageSigner) (sender : String) : String :=
  if sender.toList.contains '@' then sender else sender ++ "@" ++ s.config.domain

/-- The names that a signature of this header lists. -/
def namesToSign (s : MessageSigner) (header : Header) : List String :=
  Dkim.namesToSign header s.config.oversignFields s.config.signFields

/-- When a signature made at `now` expires. -/
def expiration (s : MessageSigner) (now : Int) : Except Failure (Option Int) :=
  if s.config.expiry.isZero then .ok none
  else
    let expiration := now + s.config.expiry.seconds
    if expiration < endOfTime then .ok (some expiration)
    else .error (.signingOption "signature expiration overflows")

/-- The parameters of a signature that is made and expires at these times. -/
def parametersFor (s : MessageSigner) (timestamp : Int) (expiration : Option Int)
    (identifier : String) (header : Header) : Parameters where
  domain := s.config.domain
  selector := s.config.selector
  identifier := some identifier
  hash := s.config.hash
  headerMode := s.config.headerMode
  bodyMode := s.config.bodyMode
  headerKeys := s.namesToSign header
  timestamp := timestamp
  expiration := expiration

/-- The parameters of a signature made at `now`. -/
def parameters (s : MessageSigner) (now : Int) (identifier : String) (header : Header) :
    Except Failure Parameters := do
  return s.parametersFor now (← s.expiration now) identifier header

/-- The value of the signature field with these parameters.  They are checked before the body is
read. -/
def signWith (s : MessageSigner) (parameters : Parameters) (disk : FileSystem) (header : Header)
    (body : Body) : Except Failure String := do
  let signer ← Signer.new parameters s.key
  let content ← (body.read disk).mapError Failure.io
  ((signer.writeHeader header).write content).finish

/-- The value of the signature field for a message. -/
def signature (s : MessageSigner) (host : Host) (identifier : String) (header : Header)
    (body : Body) : Except Failure String := do
  s.signWith (← s.parameters host.now identifier header) host.disk header body

/-- Puts a signature on top of the header. -/
def addSignature (s : MessageSigner) (envelope : Envelope) (body : Body) :
    Act (Host × Header) (Except Failure Unit) := fun (host, header) =>
  let identifier := s.identifier envelope.sender
  match s.signature host identifier header body with
  | .error failure =>
    ⟨.error failure, (host, header), [⟨.error, "Failed to sign message",
      [("msg_id", envelope.id), ("identifier", identifier), ("error", failure.display)]⟩]⟩
  | .ok value =>
    ⟨.ok (), (host, header.add signatureField value),
      if s.config.debug then [⟨.debug, "Signed message", [("msg_id", envelope.id),
        ("identifier", identifier), ("domain", s.config.domain)]⟩] else []⟩

/-- The signer at work on a message; envelope addresses stay as they are. -/
def editor (s : MessageSigner) (envelope : Envelope) : Editor Host where
  editSender sender := Act.pure (.ok sender)
  editRcpt rcpt := Act.pure (.ok rcpt)
  editHeader := s.addSignature envelope
  close := Act.pure (.ok ())

/-- The signer as a modifier. -/
def modifier (s : MessageSigner) : Modifier Host where
  name := moduleName
  instanceName := s.instanceName
  start envelope := Act.pure (.ok (s.editor envelope))

end MessageSigner

end Mailroom.Dkim
