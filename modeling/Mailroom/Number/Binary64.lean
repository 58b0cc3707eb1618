import Mailroom.Crypto.Modular

/-! # Binary floating point

A number in the 64-bit binary format of IEEE 754 is not a number, infinite, or `m · 2^e` with a
significand `m` below 2^53 (`Binary64`).  `Binary64.ofDecimal` rounds a decimal number to the
nearest such value, a tie to the even significand; all arithmetic is exact. -/

namespace Mailroom

/-- A number in the 64-bit binary format. -/
inductive Binary64 where
  | nan
  | infinite (negative : Bool)
  /-- The value `significand · 2^exponent`. -/
  | finite (negative : Bool) (significand : Nat) (exponent : Int)
deriving DecidableEq, Repr

namespace Binary64

/-- The number of bits of a full significand. -/
def precision : Nat := 53

/-- The smallest exponent. -/
def minExponent : Int := -1074

/-- The largest exponent. -/
def maxExponent : Int := 971

/-- `a / b` rounded to the nearest integer, a tie to the even one. -/
def roundQuotient (a b : Nat) : Nat :=
  let q := a / b
  let twice := 2 * (a % b)
  if twice < b then q else if b < twice then q + 1 else q + q % 2

/-- The pair of numbers whose quotient is `(a / b) / 2^e`. -/
def scale (a b : Nat) (e : Int) : Nat × Nat :=
  if 0 ≤ e then (a, b * Nat.pow 2 e.toNat) else (a * Nat.pow 2 (-e).toNat, b)

/-- The exponent that gives the positive number `a / b` a full significand, or the smallest
exponent. -/
def exponentFor (a b : Nat) : Int :=
  let guess := (bitLength a : Int) - bitLength b - precision
  let (x, y) := scale a b guess
  let e := if x / y < Nat.pow 2 (precision - 1) then guess - 1
    else if Nat.pow 2 precision ≤ x / y then guess + 1 else guess
  max e minExponent

/-- The value nearest to `a / b`. -/
def ofQuotient (negative : Bool) (a b : Nat) : Binary64 :=
  if a = 0 then finite negative 0 minExponent
  else
    let e := exponentFor a b
    let (x, y) := scale a b e
    let m := roundQuotient x y
    let (m, e) := if m = Nat.pow 2 precision then (Nat.pow 2 (precision - 1), e + 1) else (m, e)
    if maxExponent < e then infinite negative else finite negative m e

/-- The value nearest to `digits · 10^exponent`, where `count` is the number of digits written.
Numbers far outside of the range are not computed. -/
def ofDecimal (negative : Bool) (digits count : Nat) (exponent : Int) : Binary64 :=
  if digits = 0 || exponent + count < -400 then finite negative 0 minExponent
  else if 400 + count < exponent then infinite negative
  else if 0 ≤ exponent then ofQuotient negative (digits * Nat.pow 10 exponent.toNat) 1
  else ofQuotient negative digits (Nat.pow 10 (-exponent).toNat)

end Binary64

end Mailroom
