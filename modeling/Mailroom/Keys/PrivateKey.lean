import Mailroom.Crypto.Ed25519
import Mailroom.Crypto.Rsa
import Mailroom.Keys.Der

/-! # Private keys in distinguished encoding

Two forms are known: the form that serves RSA only (PKCS #1, RFC 8017) and the one that names
its algorithm (PKCS #8, RFC 5958).  An RSA key is accepted if its numbers belong together; the
numbers that only speed up its use are ignored in reading and computed anew in writing.  An
Ed25519 key may carry its public key, which must then be the right one. -/

namespace Mailroom.Keys

/-- Object identifier of RSA. -/
def rsaIdentifier : Bytes := [0x2a, 0x86, 0x48, 0x86, 0xf7, 0x0d, 0x01, 0x01, 0x01]

/-- Object identifier of Ed25519. -/
def ed25519Identifier : Bytes := [0x2b, 0x65, 0x70]

/-! ### RSA keys in the form of their own -/

/-- An RSA key: version 0 and eight numbers. -/
def readRsa? (input : Bytes) : Option Rsa.PrivateKey := do
  let content ← Der.whole? Der.sequenceTag input
  let (0 :: numbers, rest) ← Der.readNaturals? 9 content | none
  if !rest.isEmpty then none
  let [n, e, d, p, q, _, _, _] := numbers | none
  let key : Rsa.PrivateKey := ⟨n, e, d, p, q⟩
  if key.isConsistent then some key else none

/-- An RSA key written out, if the inverse of its second prime exists. -/
def writeRsa? (key : Rsa.PrivateKey) : Option Bytes :=
  key.coefficient?.map fun coefficient =>
    Der.sequence <| [0, key.modulus, key.publicExponent, key.privateExponent, key.p, key.q,
      key.privateExponent % (key.p - 1), key.privateExponent % (key.q - 1), coefficient].map
        Der.natural

/-! ### The form that names its algorithm -/

/-- What a private key in this form holds. -/
structure Wrapped where
  /-- The identifier of the algorithm. -/
  identifier : Bytes
  /-- The parameters of the algorithm. -/
  parameters? : Option Der.Element
  content : Bytes
  publicKey? : Option Bytes
deriving DecidableEq, Repr

/-- Whether a tag is specific to its context. -/
def isContextTag (tag : UInt8) : Bool := 0x80 ≤ tag && tag < 0xc0

/-- The number of a tag. -/
def tagNumber (tag : UInt8) : Nat := tag.toNat % 32

/-- Whether the input consists of context-specific fields, each of which holds exactly one
element. -/
def onlyExtensions (input : Bytes) : Bool :=
  if input.isEmpty then true
  else match h : Der.readElement? input with
    | none => false
    | some (e, rest) =>
      have := Der.length_of_readElement? h
      0xa0 ≤ e.tag && e.tag < 0xc0 &&
        ((Der.readElement? e.content).any fun inner => inner.2.isEmpty) && onlyExtensions rest
termination_by input.length

/-- Reads the public key, field number 1, past fields with a lower number. -/
def readPublicKey? (input : Bytes) : Option (Option Bytes × Bytes) :=
  match h : Der.readElement? input with
  | none => if input.isEmpty then some (none, []) else none
  | some (e, rest) =>
    have := Der.length_of_readElement? h
    if !isContextTag e.tag || 1 < tagNumber e.tag then some (none, input)
    else if tagNumber e.tag = 0 then readPublicKey? rest
    else match e.tag, e.content with
      | 0x81, 0 :: bits => some (some bits, rest)
      | _, _ => none
termination_by input.length

/-- Reads the algorithm: its identifier and its parameters. -/
def readAlgorithm? (content : Bytes) : Option (Bytes × Option Der.Element) := do
  let (identifier, rest) ← Der.expect? Der.identifierTag content
  if rest.isEmpty then return (identifier, none)
  let (parameters, rest) ← Der.readElement? rest
  if rest.isEmpty then return (identifier, some parameters) else none

/-- Reads a private key that names its algorithm.  Version 1 holds the public key, version 0 does
not. -/
def readWrapped? (input : Bytes) : Option Wrapped := do
  let fields ← Der.whole? Der.sequenceTag input
  let (version, fields) ← Der.readNatural? fields
  let (algorithm, fields) ← Der.expect? Der.sequenceTag fields
  let (identifier, parameters?) ← readAlgorithm? algorithm
  let (content, fields) ← Der.expect? Der.octetStringTag fields
  let (publicKey?, fields) ← readPublicKey? fields
  let key : Wrapped := ⟨identifier, parameters?, content, publicKey?⟩
  if version ≤ 1 && (version == 1) == publicKey?.isSome && onlyExtensions fields then some key
  else none

/-- The RSA key in this form. -/
def Wrapped.rsa? (key : Wrapped) : Option Rsa.PrivateKey :=
  if key.identifier = rsaIdentifier && key.parameters? = some ⟨Der.nullTag, []⟩ then
    readRsa? key.content
  else none

/-- The seed of the Ed25519 key in this form. -/
def Wrapped.ed25519? (key : Wrapped) : Option Bytes :=
  if key.identifier = ed25519Identifier && key.parameters? = none then
    match key.content with
    | 0x04 :: 0x20 :: seed =>
      if seed.length = 32 && key.publicKey?.all (· == Ed25519.publicKey seed) then some seed
      else none
    | _ => none
  else none

/-- The algorithm of RSA keys. -/
def rsaAlgorithm : Bytes :=
  Der.sequence [Der.element Der.identifierTag rsaIdentifier, Der.element Der.nullTag []]

/-- The algorithm of Ed25519 keys. -/
def ed25519Algorithm : Bytes := Der.sequence [Der.element Der.identifierTag ed25519Identifier]

/-- An RSA key in this form. -/
def wrapRsa? (key : Rsa.PrivateKey) : Option Bytes :=
  (writeRsa? key).map fun content =>
    Der.sequence [Der.natural 0, rsaAlgorithm, Der.element Der.octetStringTag content]

/-- An Ed25519 key in this form, with its public key. -/
def wrapEd25519 (seed : Bytes) : Bytes :=
  Der.sequence [Der.natural 1, ed25519Algorithm,
    Der.element Der.octetStringTag (Der.element Der.octetStringTag seed),
    Der.element 0x81 (0 :: Ed25519.publicKey seed)]

/-! ### Public keys -/

/-- The public part of an RSA key with its algorithm, unless it is too long to be written. -/
def publishRsa? (key : Rsa.PrivateKey) : Option Bytes :=
  let numbers := Der.sequence [Der.natural key.modulus, Der.natural key.publicExponent]
  let content := Der.sequence [rsaAlgorithm, Der.element Der.bitStringTag (0 :: numbers)]
  if Der.maxLength < content.length then none else some content

end Mailroom.Keys
