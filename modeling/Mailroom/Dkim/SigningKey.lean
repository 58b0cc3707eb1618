import Mailroom.Crypto.Ed25519
import Mailroom.Crypto.Rsa
import Mailroom.Dkim.HashAlgorithm
import Mailroom.Failure

/-! # Signing keys

A key that signs mail is an RSA key or an Ed25519 key.  `KeyKind` says what kind of key to make
when there is none. -/

namespace Mailroom.Dkim

/-- What kind of key to make. -/
inductive KeyKind where
  | rsa4096
  | rsa2048
  | ed25519
deriving DecidableEq, Repr

instance : Inhabited KeyKind := ⟨.rsa2048⟩

namespace KeyKind

/-- Every kind, in the order in which a message lists them. -/
def all : List KeyKind := [rsa4096, rsa2048, ed25519]

/-- The name in configurations. -/
def name : KeyKind → String
  | rsa4096 => "rsa4096"
  | rsa2048 => "rsa2048"
  | ed25519 => "ed25519"

/-- The kind with exactly this name. -/
def ofName? (name : String) : Option KeyKind := all.find? (·.name == name)

/-- The kind with this name, or a failure. -/
def parse (name : String) : Except Failure KeyKind :=
  match ofName? name with
  | some kind => .ok kind
  | none => .error (.key ("unsupported key algorithm: " ++ name))

end KeyKind

/-- A private signing key; an Ed25519 key is given by its seed of 32 octets. -/
inductive SigningKey where
  | rsa (key : Rsa.PrivateKey)
  | ed25519 (seed : Bytes)
deriving DecidableEq, Repr

namespace SigningKey

/-- The type of key in the `a=` and `k=` tags. -/
def typeName : SigningKey → String
  | rsa _ => "rsa"
  | ed25519 _ => "ed25519"

/-- What a log may show of a key. -/
def describe : SigningKey → String
  | rsa key => "KeyMaterial::Rsa(" ++ String.ofList (natDigits (key.size * 8)) ++ " bits)"
  | ed25519 _ => "KeyMaterial::Ed25519"

/-- Whether a key can sign digests of this hash algorithm. -/
def supports : SigningKey → HashAlgorithm → Bool
  | rsa _, _ => true
  | ed25519 _, hash => hash == .sha256

/-- Signs a digest. -/
def sign : SigningKey → Bytes → Except Failure Bytes
  | rsa key, digest =>
    (Rsa.sign key digest).mapError fun fault =>
      .signingOption ("RSA signing failed: " ++ fault.message)
  | ed25519 seed, digest => .ok (Ed25519.sign seed digest)

end SigningKey

end Mailroom.Dkim
