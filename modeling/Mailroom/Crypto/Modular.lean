/-! # Modular arithmetic

Powers and inverses modulo a number, on natural numbers of any size. -/

namespace Mailroom

/-- `base ^ exponent` modulo `modulus`, by repeated squaring. -/
def powMod (base exponent modulus : Nat) : Nat :=
  if exponent = 0 then 1 % modulus
  else
    let rest := powMod (base * base % modulus) (exponent / 2) modulus
    if exponent % 2 = 1 then rest * base % modulus else rest
termination_by exponent
decreasing_by omega

/-- Euclid's algorithm on `a` and `b`: their greatest common divisor, and the factor of the
first one in it; `s` and `t` are the factors for `a` and `b` themselves. -/
def euclid (a b : Nat) (s t : Int) : Nat × Int :=
  if b = 0 then (a, s) else euclid b (a % b) t (s - (a / b : Nat) * t)
termination_by b
decreasing_by exact Nat.mod_lt _ (by omega)

/-- The inverse of `a` modulo `m`, if there is one. -/
def inverseMod? (a m : Nat) : Option Nat :=
  match euclid (a % m) m 1 0 with
  | (1, s) => some (s % (m : Int)).toNat
  | _ => none

/-- The number that octets denote, most significant octet first. -/
def natOfBytes (bytes : List UInt8) : Nat := bytes.foldl (fun n b => n * 256 + b.toNat) 0

/-- The number of bits of a number, zero for zero. -/
def bitLength (n : Nat) : Nat := if n = 0 then 0 else n.log2 + 1

end Mailroom
