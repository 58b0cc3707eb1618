import Mailroom.Crypto.Prime
import Mailroom.Dkim.KeyText
import Mailroom.Host.Basic
import Mailroom.Journal
import Mailroom.Text.Replace

/-! # Key files

A signing key lies in a file whose path comes from a template (`keyFilePath`).  `obtainKey` reads
it.  If the file does not exist, a key is made and written so that only the owner can read it;
beside it goes a file with the record to publish (`dnsPath`).  A file that exists is never
written.  Where new keys come from is up to a `KeySource`; `obtainKey` takes them from
`SigningKey.generate`. -/

namespace Mailroom.Dkim

/-- The path that a template gives: the tokens for domain and selector replaced, in this
order. -/
def keyFilePath (template domain selector : String) : String :=
  replaceAll "\x7bselector\x7d" selector (replaceAll "\x7bdomain\x7d" domain template)

/-- The path of the record to publish beside a key. -/
def dnsPath (path : String) : String := path ++ ".dns"

/-- Where new keys come from: a key of some kind, made from an unused number. -/
abbrev KeySource : Type := KeyKind → Nat → Except Failure SigningKey

/-- A new RSA key with a modulus of so many bits. -/
def SigningKey.generateRsa (bits entropy : Nat) : Except Failure SigningKey :=
  match Rsa.generate? bits entropy with
  | some key => .ok (.rsa key)
  | none => .error (.key "failed to generate RSA key: no prime found")

/-- A new key of this kind. -/
def SigningKey.generate : KeySource
  | .rsa4096, entropy => generateRsa 4096 entropy
  | .rsa2048, entropy => generateRsa 2048 entropy
  | .ed25519, entropy => .ok (.ed25519 (expandEntropy entropy "ed25519" 32))

/-- The failure of an operation on a file. -/
def fileFailure (operation path : String) (fault : IoFault) : Failure :=
  .key ("failed to " ++ operation ++ " " ++ path ++ ": " ++ fault.message)

/-- Makes the directory that a key file lies in. -/
def makeKeyDirectory (path : String) : Act FileSystem (Except Failure Unit) :=
  match Path.parent? path with
  | none => Act.pure (.ok ())
  | some parent =>
    if parent.isEmpty then Act.pure (.ok ())
    else (Act.updating (·.makeDirectories parent)).mapError
      (fileFailure "create key directory" parent)

/-- Writes a text to a file of this mode.  What is done to the file at the end can fail, too. -/
def writeText (operation path text : String) (mode : Nat)
    (finish : FileSystem → OpenFile → Except IoFault Unit) :
    Act FileSystem (Except Failure Unit) :=
  ((Act.updating (·.storeFile path (utf8 text) mode)).andThen fun file =>
    Act.read (finish · file)).mapError (fileFailure operation path)

/-- Makes the record of a key and writes it beside the key file. -/
def writeRecord (path : String) (key : SigningKey) : Act FileSystem (Except Failure Unit) :=
  match key.dnsRecord with
  | .error failure => Act.pure (.error failure)
  | .ok record =>
    writeText "write DNS record" (dnsPath path) (record ++ "\n") FileSystem.publicMode
      fun _ _ => .ok ()

/-- Writes a key file, and the record when the key file is there.  Only the key file is flushed. -/
def writeKey (path : String) (key : SigningKey) : Act FileSystem (Except Failure Unit) :=
  (makeKeyDirectory path).andThen fun _ =>
    match key.toPem with
    | .error failure => Act.pure (.error failure)
    | .ok pem =>
      (writeText "write key" path pem FileSystem.privateMode FileSystem.flushFile).andThen fun _ =>
        writeRecord path key

/-- Makes a key and writes its files. -/
def generateKey (source : KeySource) (path : String) (kind : KeyKind) :
    Act Host (Except Failure SigningKey) :=
  (Act.updating Host.draw).bind fun entropy =>
    match source kind entropy with
    | .error failure => Act.pure (.error failure)
    | .ok key => (Host.onDisk (writeKey path key)).andThen fun _ => Act.pure (.ok key)

/-- The key in a file that was read. -/
def readKey (path text : String) : Except Failure SigningKey :=
  (SigningKey.ofPem text).mapError fun failure => .key (path ++ ": " ++ failure.message)

/-- Reads the key of a domain and selector, or takes one from the source if its file does not
exist. -/
def obtainKeyFrom (source : KeySource) (domain selector path : String) (kind : KeyKind) :
    Act Host (Except Failure SigningKey) :=
  let values (more : String × String) :=
    [("domain", domain), ("selector", selector), ("path", path), more]
  (Act.read fun host => host.disk.readText path).bind fun
    | .ok text =>
      match readKey path text with
      | .error failure => Act.pure (.error failure)
      | .ok key =>
        (Act.report .info "Loaded DKIM key" (values ("key_type", key.typeName))).bind fun _ =>
          Act.pure (.ok key)
    | .error (.system .notFound) =>
      (generateKey source path kind).andThen fun key =>
        (Act.report .warn
          "Generated new DKIM key, publish the record from the .dns file"
          (values ("algorithm", kind.name))).bind fun _ => Act.pure (.ok key)
    | .error fault => Act.pure (.error (fileFailure "read key" path fault))

/-- Reads the key of a domain and selector, or makes one if its file does not exist. -/
def obtainKey : String → String → String → KeyKind → Act Host (Except Failure SigningKey) :=
  obtainKeyFrom SigningKey.generate

end Mailroom.Dkim
