import Mailroom.Crypto.Modular
import Mailroom.Crypto.Sha2

/-! # RSA

A private key with two primes, the check that its numbers belong together
(`Rsa.PrivateKey.isConsistent`), and signatures in the form PKCS #1 v1.5 (RFC 8017) over a SHA-256
digest.  A signature is computed modulo each prime and checked with the public exponent before
it is given out. -/

namespace Mailroom.Rsa

/-- A private key: modulus, public and private exponent, and the two primes. -/
structure PrivateKey where
  modulus : Nat
  publicExponent : Nat
  privateExponent : Nat
  p : Nat
  q : Nat
deriving DecidableEq, Repr

/-- The largest public exponent that is accepted. -/
def maxPublicExponent : Nat := Nat.pow 2 33 - 1

/-- The largest modulus that is accepted, in bits. -/
def maxModulusBits : Nat := 4096

namespace PrivateKey

variable (key : PrivateKey)

/-- Whether the exponents are inverse to each other modulo `prime - 1`. -/
def exponentsFit (prime : Nat) : Bool :=
  key.publicExponent * key.privateExponent % (prime - 1) == 1

/-- Whether the numbers of a key belong together. -/
def isConsistent : Bool :=
  bitLength key.modulus ≤ maxModulusBits && 2 ≤ key.publicExponent &&
    key.publicExponent ≤ maxPublicExponent && 1 < key.p && 1 < key.q &&
    key.p * key.q == key.modulus && key.exponentsFit key.p && key.exponentsFit key.q

/-- The size of the modulus in octets. -/
def size : Nat := (bitLength key.modulus + 7) / 8

/-- The inverse of the second prime modulo the first. -/
def coefficient? : Option Nat := inverseMod? key.q key.p

/-- A number raised to the private exponent, computed modulo each prime where that is
possible. -/
def power (c : Nat) : Nat :=
  match key.coefficient? with
  | none => powMod c key.privateExponent key.modulus
  | some inverse =>
    let m1 := powMod c (key.privateExponent % (key.p - 1)) key.p
    let m2 := powMod c (key.privateExponent % (key.q - 1)) key.q
    let h := inverse * (m1 + key.p - m2 % key.p) % key.p
    m2 + h * key.q

end PrivateKey

/-- What names SHA-256 in front of a digest in a signature. -/
def sha256Name : Bytes :=
  [0x30, 0x31, 0x30, 0x0d, 0x06, 0x09, 0x60, 0x86, 0x48, 0x01, 0x65, 0x03, 0x04, 0x02, 0x01, 0x05,
    0x00, 0x04, 0x20]

/-- Why no signature was made. -/
inductive SignFault where
  /-- The modulus has no room for the digest. -/
  | messageTooLong
  /-- The signature did not verify. -/
  | internal
deriving DecidableEq, Repr

/-- The words for a fault. -/
def SignFault.message : SignFault → String
  | .messageTooLong => "message too long"
  | .internal => "internal error"

/-- The padded digest, as long as the modulus. -/
def paddedDigest? (size : Nat) (digest : Bytes) : Option Bytes :=
  let named := sha256Name ++ digest
  if size < named.length + 11 then none
  else some (0x00 :: 0x01 :: List.replicate (size - named.length - 3) 0xff ++ 0x00 :: named)

/-- Signs a SHA-256 digest. -/
def sign (key : PrivateKey) (digest : Bytes) : Except SignFault Bytes :=
  match paddedDigest? key.size digest with
  | none => .error .messageTooLong
  | some padded =>
    let c := natOfBytes padded
    let m := key.power c
    if powMod m key.publicExponent key.modulus = c then .ok (Sha2.bigEndian key.size m)
    else .error .internal

end Mailroom.Rsa
