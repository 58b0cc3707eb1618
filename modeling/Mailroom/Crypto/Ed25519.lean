import Mailroom.Crypto.Modular
import Mailroom.Crypto.Sha2

/-! # Ed25519

Signatures on the twisted Edwards curve −x² + y² = 1 + d·x²·y² over the field of 2^255 − 19
elements (RFC 8032).  A private key is a seed of 32 octets; its hash gives the secret scalar and
the secret part of the nonce.  Points are kept in extended coordinates
(`Ed25519.Point`). -/

namespace Mailroom.Ed25519

/-- The size of the field. -/
def prime : Nat := Nat.pow 2 255 - 19

/-- The order of the base point. -/
def order : Nat := Nat.pow 2 252 + 27742317777372353535851937790883648493

/-- The constant `d` of the curve. -/
def curveConstant : Nat :=
  37095705934669439343138083508754565189542113879843219016388785533085940283555

/-- A point `(x/z, y/z)` with `x·y = z·t`. -/
structure Point where
  (x y z t : Nat)
deriving DecidableEq, Repr

/-- The difference of two field elements. -/
def sub (a b : Nat) : Nat := (a + prime - b % prime) % prime

namespace Point

/-- The neutral point. -/
def zero : Point := ⟨0, 1, 1, 0⟩

/-- The base point. -/
def base : Point :=
  let x := 15112221349535400772501151409588531511454012693041857206046113283949847762202
  let y := 46316835694926478169428394003475163141307993866256225615783033603165251855960
  ⟨x, y, 1, x * y % prime⟩

/-- The sum of two points. -/
def add (p q : Point) : Point :=
  let a := sub p.y p.x * sub q.y q.x % prime
  let b := (p.y + p.x) * (q.y + q.x) % prime
  let c := 2 * curveConstant * p.t * q.t % prime
  let d := 2 * p.z * q.z % prime
  let e := sub b a
  let f := sub d c
  let g := d + c
  let h := b + a
  ⟨e * f % prime, g * h % prime, f * g % prime, e * h % prime⟩

/-- The `n`-fold sum of a point, by doubling. -/
def multiple (n : Nat) (p : Point) : Point :=
  if n = 0 then zero
  else
    let rest := multiple (n / 2) (p.add p)
    if n % 2 = 1 then rest.add p else rest
termination_by n
decreasing_by omega

/-- The 32 octets of a point: `y`, and the lowest bit of `x` on top. -/
def encode (p : Point) : Bytes :=
  let inverse := powMod p.z (prime - 2) prime
  let x := p.x * inverse % prime
  let y := p.y * inverse % prime
  (Sha2.bigEndian 32 (y + x % 2 * Nat.pow 2 255)).reverse

end Point

/-- The number that octets denote, least significant octet first. -/
def littleEndian (bytes : Bytes) : Nat := natOfBytes bytes.reverse

/-- The secret scalar of a seed and the secret part of its nonces. -/
def expand (seed : Bytes) : Nat × Bytes :=
  let hash := Sha2.digest Sha2.sha512 seed
  let low := littleEndian (hash.take 32)
  (low % Nat.pow 2 254 / 8 * 8 + Nat.pow 2 254, hash.drop 32)

/-- The public key of a seed. -/
def publicKey (seed : Bytes) : Bytes := (Point.multiple (expand seed).1 Point.base).encode

/-- Signs a message. -/
def sign (seed message : Bytes) : Bytes :=
  let (scalar, nonce) := expand seed
  let owner := (Point.multiple scalar Point.base).encode
  let r := littleEndian (Sha2.digest Sha2.sha512 (nonce ++ message)) % order
  let commitment := (Point.multiple r Point.base).encode
  let k := littleEndian (Sha2.digest Sha2.sha512 (commitment ++ owner ++ message)) % order
  commitment ++ (Sha2.bigEndian 32 ((r + k * scalar) % order)).reverse

end Mailroom.Ed25519
