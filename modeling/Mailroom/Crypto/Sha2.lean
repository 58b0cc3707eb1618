import Mailroom.Bytes

/-! # The SHA-2 hash functions

SHA-256 and SHA-512 (FIPS 180-4) are one algorithm with different word sizes, rotation amounts and
constants; a `Sha2.Variant` holds what differs.  Words are natural numbers below 2^bits.

A `Sha2.Hasher` takes one octet at a time and compresses every full block, so hashing a
message in chunks and hashing it at once are the same fold (`update_append`).
`Sha2.Hasher.finish` pads and returns the digest. -/

namespace Mailroom

namespace Sha2

/-- The chaining value: eight words. -/
structure Chain where
  (a b c d e f g h : Nat)
deriving DecidableEq, Repr

/-- What tells one member of the family from another. -/
structure Variant where
  /-- Size of a word in bits. -/
  bits : Nat
  /-- The chaining value of the empty message. -/
  initial : Chain
  /-- One constant for each round. -/
  constants : List Nat
  /-- Rotations of the first big sum. -/
  bigSum0 : Nat × Nat × Nat
  /-- Rotations of the second big sum. -/
  bigSum1 : Nat × Nat × Nat
  /-- Two rotations and a shift of the first small sum. -/
  smallSum0 : Nat × Nat × Nat
  /-- Two rotations and a shift of the second small sum. -/
  smallSum1 : Nat × Nat × Nat

namespace Variant

variable (v : Variant)

/-- Octets in a word. -/
def wordSize : Nat := v.bits / 8

/-- Octets in a block. -/
def blockSize : Nat := 16 * v.wordSize

/-- A number reduced to a word. -/
def word (n : Nat) : Nat := n % Nat.pow 2 v.bits

/-- A word rotated to the right. -/
def rotate (x n : Nat) : Nat := x >>> n ||| v.word (x <<< (v.bits - n))

/-- Three rotations combined. -/
def bigSum (r : Nat × Nat × Nat) (x : Nat) : Nat :=
  v.rotate x r.1 ^^^ v.rotate x r.2.1 ^^^ v.rotate x r.2.2

/-- Two rotations and a shift combined. -/
def smallSum (r : Nat × Nat × Nat) (x : Nat) : Nat :=
  v.rotate x r.1 ^^^ v.rotate x r.2.1 ^^^ x >>> r.2.2

/-- The bits of `y` where `x` has ones, and of `z` where it has zeros. -/
def choose (x y z : Nat) : Nat := (x &&& y) ^^^ ((Nat.pow 2 v.bits - 1 - x) &&& z)

/-- The words of a block, big end first. -/
def blockWords (block : Array UInt8) : Array Nat :=
  ((List.range 16).map fun i =>
    (List.range v.wordSize).foldl
      (fun n j => n * 256 + (block.getD (i * v.wordSize + j) 0).toNat) 0).toArray

/-- The message schedule: one word for each round. -/
def schedule (block : Array UInt8) : Array Nat :=
  (List.range (v.constants.length - 16)).foldl
    (fun w i => w.push (v.word (v.smallSum v.smallSum1 (w.getD (i + 14) 0) + w.getD (i + 9) 0 +
      v.smallSum v.smallSum0 (w.getD (i + 1) 0) + w.getD i 0)))
    (v.blockWords block)

/-- The bits that at least two of three words have. -/
def majority (x y z : Nat) : Nat := (x &&& y) ^^^ (x &&& z) ^^^ (y &&& z)

/-- One round with its constant and its schedule word. -/
def round (s : Chain) (constant word : Nat) : Chain :=
  let t1 := s.h + v.bigSum v.bigSum1 s.e + v.choose s.e s.f s.g + constant + word
  let t2 := v.bigSum v.bigSum0 s.a + majority s.a s.b s.c
  ⟨v.word (t1 + t2), s.a, s.b, s.c, v.word (s.d + t1), s.e, s.f, s.g⟩

/-- Works a full block into the chaining value. -/
def compress (s : Chain) (block : Array UInt8) : Chain :=
  let r := (v.constants.zip (v.schedule block).toList).foldl (fun r kw => v.round r kw.1 kw.2) s
  ⟨v.word (s.a + r.a), v.word (s.b + r.b), v.word (s.c + r.c), v.word (s.d + r.d),
    v.word (s.e + r.e), v.word (s.f + r.f), v.word (s.g + r.g), v.word (s.h + r.h)⟩

end Variant

/-- The big-endian octets of a number, `width` of them. -/
def bigEndian (width n : Nat) : Bytes :=
  (List.range width).reverse.map fun i => UInt8.ofNat (n >>> (8 * i))

/-- A hash computation on its way: the chaining value, the octets of the block that is not full
yet, and the number of octets taken. -/
structure Hasher (v : Variant) where
  chain : Chain := v.initial
  block : Array UInt8 := #[]
  size : Nat := 0
deriving DecidableEq

namespace Hasher

variable {v : Variant}

/-- Takes one octet. -/
def step (h : Hasher v) (b : UInt8) : Hasher v :=
  let block := h.block.push b
  if block.size < v.blockSize then ⟨h.chain, block, h.size + 1⟩
  else ⟨v.compress h.chain block, #[], h.size + 1⟩

/-- Takes a chunk of the message. -/
def update (h : Hasher v) (chunk : Bytes) : Hasher v := chunk.foldl step h

/-- What follows a message of this size: a one bit, zeros up to the end of a block, and the size
in bits in two words. -/
def padding (v : Variant) (size : Nat) : Bytes :=
  let zeros := (2 * v.blockSize - 1 - 2 * v.wordSize - size % v.blockSize) % v.blockSize
  0x80 :: List.replicate zeros 0 ++ bigEndian (2 * v.wordSize) (8 * size)

/-- The digest of the octets taken. -/
def finish (h : Hasher v) : Bytes :=
  let c := (h.update (padding v h.size)).chain
  [c.a, c.b, c.c, c.d, c.e, c.f, c.g, c.h].flatMap (bigEndian v.wordSize)

/-- **Chunks do not matter:** two chunks one after the other count as one. -/
theorem update_append (h : Hasher v) (first second : Bytes) :
    h.update (first ++ second) = (h.update first).update second :=
  List.foldl_append

@[simp] theorem update_nil (h : Hasher v) : h.update [] = h := rfl

end Hasher

/-- The digest of a message. -/
def digest (v : Variant) (message : Bytes) : Bytes := (({} : Hasher v).update message).finish

/-- SHA-256. -/
def sha256 : Variant where
  bits := 32
  initial := ⟨0x6a09e667, 0xbb67ae85, 0x3c6ef372, 0xa54ff53a,
    0x510e527f, 0x9b05688c, 0x1f83d9ab, 0x5be0cd19⟩
  constants := [
    0x428a2f98, 0x71374491, 0xb5c0fbcf, 0xe9b5dba5, 0x3956c25b, 0x59f111f1, 0x923f82a4, 0xab1c5ed5,
    0xd807aa98, 0x12835b01, 0x243185be, 0x550c7dc3, 0x72be5d74, 0x80deb1fe, 0x9bdc06a7, 0xc19bf174,
    0xe49b69c1, 0xefbe4786, 0x0fc19dc6, 0x240ca1cc, 0x2de92c6f, 0x4a7484aa, 0x5cb0a9dc, 0x76f988da,
    0x983e5152, 0xa831c66d, 0xb00327c8, 0xbf597fc7, 0xc6e00bf3, 0xd5a79147, 0x06ca6351, 0x14292967,
    0x27b70a85, 0x2e1b2138, 0x4d2c6dfc, 0x53380d13, 0x650a7354, 0x766a0abb, 0x81c2c92e, 0x92722c85,
    0xa2bfe8a1, 0xa81a664b, 0xc24b8b70, 0xc76c51a3, 0xd192e819, 0xd6990624, 0xf40e3585, 0x106aa070,
    0x19a4c116, 0x1e376c08, 0x2748774c, 0x34b0bcb5, 0x391c0cb3, 0x4ed8aa4a, 0x5b9cca4f, 0x682e6ff3,
    0x748f82ee, 0x78a5636f, 0x84c87814, 0x8cc70208, 0x90befffa, 0xa4506ceb, 0xbef9a3f7, 0xc67178f2]
  bigSum0 := (2, 13, 22)
  bigSum1 := (6, 11, 25)
  smallSum0 := (7, 18, 3)
  smallSum1 := (17, 19, 10)

/-- SHA-512. -/
def sha512 : Variant where
  bits := 64
  initial := ⟨0x6a09e667f3bcc908, 0xbb67ae8584caa73b, 0x3c6ef372fe94f82b, 0xa54ff53a5f1d36f1,
    0x510e527fade682d1, 0x9b05688c2b3e6c1f, 0x1f83d9abfb41bd6b, 0x5be0cd19137e2179⟩
  constants := [
    0x428a2f98d728ae22, 0x7137449123ef65cd, 0xb5c0fbcfec4d3b2f, 0xe9b5dba58189dbbc,
    0x3956c25bf348b538, 0x59f111f1b605d019, 0x923f82a4af194f9b, 0xab1c5ed5da6d8118,
    0xd807aa98a3030242, 0x12835b0145706fbe, 0x243185be4ee4b28c, 0x550c7dc3d5ffb4e2,
    0x72be5d74f27b896f, 0x80deb1fe3b1696b1, 0x9bdc06a725c71235, 0xc19bf174cf692694,
    0xe49b69c19ef14ad2, 0xefbe4786384f25e3, 0x0fc19dc68b8cd5b5, 0x240ca1cc77ac9c65,
    0x2de92c6f592b0275, 0x4a7484aa6ea6e483, 0x5cb0a9dcbd41fbd4, 0x76f988da831153b5,
    0x983e5152ee66dfab, 0xa831c66d2db43210, 0xb00327c898fb213f, 0xbf597fc7beef0ee4,
    0xc6e00bf33da88fc2, 0xd5a79147930aa725, 0x06ca6351e003826f, 0x142929670a0e6e70,
    0x27b70a8546d22ffc, 0x2e1b21385c26c926, 0x4d2c6dfc5ac42aed, 0x53380d139d95b3df,
    0x650a73548baf63de, 0x766a0abb3c77b2a8, 0x81c2c92e47edaee6, 0x92722c851482353b,
    0xa2bfe8a14cf10364, 0xa81a664bbc423001, 0xc24b8b70d0f89791, 0xc76c51a30654be30,
    0xd192e819d6ef5218, 0xd69906245565a910, 0xf40e35855771202a, 0x106aa07032bbd1b8,
    0x19a4c116b8d2d0c8, 0x1e376c085141ab53, 0x2748774cdf8eeb99, 0x34b0bcb5e19b48a8,
    0x391c0cb3c5c95a63, 0x4ed8aa4ae3418acb, 0x5b9cca4f7763e373, 0x682e6ff3d6b2b8a3,
    0x748f82ee5defb2fc, 0x78a5636f43172f60, 0x84c87814a1f0ab72, 0x8cc702081a6439ec,
    0x90befffa23631e28, 0xa4506cebde82bde9, 0xbef9a3f7b2c67915, 0xc67178f2e372532b,
    0xca273eceea26619c, 0xd186b8c721c0c207, 0xeada7dd6cde0eb1e, 0xf57d4f7fee6ed178,
    0x06f067aa72176fba, 0x0a637dc5a2c898a6, 0x113f9804bef90dae, 0x1b710b35131c471b,
    0x28db77f523047d84, 0x32caab7b40c72493, 0x3c9ebe0a15c9bebc, 0x431d67c49c100d4c,
    0x4cc5d4becb3e42b6, 0x597f299cfc657e2a, 0x5fcb6fab3ad6faec, 0x6c44198c4a475817]
  bigSum0 := (28, 34, 39)
  bigSum1 := (14, 18, 41)
  smallSum0 := (1, 8, 7)
  smallSum1 := (19, 61, 6)

end Sha2

end Mailroom
