import Mailroom.Crypto.Rsa
import Mailroom.Text.Utf8

/-! # New keys

New keys are made from a number that was not used before (`expandEntropy` stretches it).  RSA primes
are found by search: candidates are odd numbers with their two top bits set, and the test of Miller
and Rabin decides.  The search is bounded, so it may come back without a key. -/

namespace Mailroom

/-- So many octets made from a number and a label; different labels give independent octets. -/
def expandEntropy (entropy : Nat) (label : String) (count : Nat) : Bytes :=
  ((List.range (count / 32 + 1)).flatMap fun i =>
    Sha2.digest Sha2.sha256 (Sha2.bigEndian 32 entropy ++ Sha2.bigEndian 8 i ++ utf8 label)).take
      count

namespace Rsa

/-- `n` without its factors of two, and how many there were; `bound` limits their number. -/
def splitTwos : Nat → Nat → Nat × Nat
  | 0, n => (n, 0)
  | bound + 1, n =>
    if n % 2 = 0 then
      let (odd, twos) := splitTwos bound (n / 2)
      (odd, twos + 1)
    else (n, 0)

/-- Whether squaring `x` up to `times` times meets `n - 1`. -/
def meetsMinusOne (n : Nat) : Nat → Nat → Bool
  | 0, _ => false
  | times + 1, x => x == n - 1 || meetsMinusOne n times (x * x % n)

/-- Whether `base` does not prove that the odd number `n` is composite. -/
def passes (n base : Nat) : Bool :=
  let (odd, twos) := splitTwos (bitLength n) (n - 1)
  let x := powMod base odd n
  x == 1 || meetsMinusOne n twos x

/-- The primes that candidates are divided by and that serve as bases of the test. -/
def smallPrimes : List Nat :=
  [2, 3, 5, 7, 11, 13, 17, 19, 23, 29, 31, 37, 41, 43, 47, 53, 59, 61, 67, 71]

/-- Whether a large number is prime, with a negligible chance of error. -/
def isProbablePrime (n : Nat) : Bool :=
  smallPrimes.all (fun p => n % p != 0) && smallPrimes.all (passes n)

/-- The first probable prime among `n`, `n + 2`, … that is not one more than a multiple of the
public exponent. -/
def nextPrime? (exponent : Nat) : Nat → Nat → Option Nat
  | 0, _ => none
  | tries + 1, n =>
    if n % exponent != 1 && isProbablePrime n then some n else nextPrime? exponent tries (n + 2)

/-- A prime of so many bits. -/
def generatePrime? (bits entropy : Nat) (label : String) (exponent : Nat) : Option Nat :=
  let n := natOfBytes (expandEntropy entropy label (bits / 8))
  nextPrime? exponent (16 * bits) (n % Nat.pow 2 (bits - 2) / 2 * 2 + 1 + 3 * Nat.pow 2 (bits - 2))

/-- The public exponent of new keys. -/
def standardExponent : Nat := 65537

/-- A new key with a modulus of exactly so many bits.  Its primes have no common factor, so it can
be written out. -/
def generate? (bits entropy : Nat) : Option PrivateKey := do
  let e := standardExponent
  let p ← generatePrime? (bits / 2) entropy "p" e
  let q ← generatePrime? (bits / 2) entropy "q" e
  let d ← inverseMod? e ((p - 1) * (q - 1))
  let key : PrivateKey := ⟨p * q, e, d, p, q⟩
  if bitLength key.modulus = bits && key.coefficient?.isSome then some key else none

end Rsa

end Mailroom
