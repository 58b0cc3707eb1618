import Mailroom.Number.Binary64
import Mailroom.Text.Digits

/-! # Shortest decimal text of a binary number

A binary floating-point number is shown with the fewest decimal digits that still read back as the
same number; among those the nearest to it, and of two equally near the larger (`shortest`).

* `debugText` writes very large and very small numbers with an exponent, all others with a
  point and at least one place;
* `plainText` never writes an exponent. -/

namespace Mailroom.Binary64

/-- A number and the numbers that round to it, as multiples of one unit: the number, the lower
end and the upper end; the ends count if `closed`. -/
structure Neighbourhood where
  value : Nat
  low : Nat
  high : Nat
  /-- The number of units in one. -/
  unit : Nat
  closed : Bool

/-- The neighbourhood of a positive number. -/
def neighbourhood (m : Nat) (e : Int) : Neighbourhood :=
  let narrow := m == Nat.pow 2 (precision - 1) && minExponent < e
  let up := Nat.pow 2 e.toNat
  let (value, low, high) := (4 * m, if narrow then 4 * m - 1 else 4 * m - 2, 4 * m + 2)
  ⟨value * up, low * up, high * up, 4 * Nat.pow 2 (-e).toNat, m % 2 == 0⟩

/-- Whether `digits · 10^exponent` rounds to the number. -/
def Neighbourhood.holds (n : Neighbourhood) (digits : Nat) (exponent : Int) : Bool :=
  let x := digits * n.unit * Nat.pow 10 exponent.toNat
  let down := Nat.pow 10 (-exponent).toNat
  if n.closed then n.low * down ≤ x && x ≤ n.high * down
  else n.low * down < x && x < n.high * down

/-- The digits of the nearest grid point that rounds to the number, if one does, on the grid of
multiples of `10^exponent`. -/
def Neighbourhood.onGrid? (n : Neighbourhood) (exponent : Int) : Option Nat :=
  let a := n.value * Nat.pow 10 (-exponent).toNat
  let b := n.unit * Nat.pow 10 exponent.toNat
  let below := a / b
  let nearer := if a % b * 2 < b then [below, below + 1] else [below + 1, below]
  nearer.find? fun digits => digits != 0 && n.holds digits exponent

/-- The exponent of the first decimal digit of `a / b`, searched from a first guess. -/
def leadingExponent (a b : Nat) : Nat → Int → Int
  | 0, guess => guess
  | tries + 1, guess =>
    let reaches (k : Int) : Bool := b * Nat.pow 10 k.toNat ≤ a * Nat.pow 10 (-k).toNat
    if !reaches guess then leadingExponent a b tries (guess - 1)
    else if reaches (guess + 1) then leadingExponent a b tries (guess + 1)
    else guess

/-- The fewest digits that read back as a positive number, and the power of ten of the last
one. -/
def shortest (m : Nat) (e : Int) : Nat × Int :=
  let n := neighbourhood m e
  let first := leadingExponent n.value n.unit 700 (((bitLength m : Int) + e - 1) * 3 / 10)
  let found := (List.range 17).findSome? fun (places : Nat) =>
    let exponent := first - places
    (n.onGrid? exponent).map fun digits => (digits, exponent)
  found.getD (m, e)

/-- Digits without zeros at their end, and the power of ten of the last digit left. -/
def trimZeros : Nat → Nat → Int → Nat × Int
  | 0, digits, exponent => (digits, exponent)
  | tries + 1, digits, exponent =>
    if digits % 10 = 0 then trimZeros tries (digits / 10) (exponent + 1) else (digits, exponent)

/-- A decimal number without an exponent. -/
def positional (digits : Nat) (exponent : Int) : List Char :=
  let text := natDigits digits
  if 0 ≤ exponent then text ++ List.replicate exponent.toNat '0'
  else
    let places := (-exponent).toNat
    let padded := List.replicate (places + 1 - text.length) '0' ++ text
    padded.take (padded.length - places) ++ '.' :: padded.drop (padded.length - places)

/-- A decimal number with one digit in front of the point and an exponent. -/
def scientific (digits : Nat) (exponent : Int) : List Char :=
  let text := natDigits digits
  let power := exponent + text.length - 1
  text.take 1 ++ (if 1 < text.length then '.' :: text.drop 1 else []) ++ 'e' :: intDigits power

/-- A point and a zero behind a number that has no point. -/
def withPoint (text : List Char) : List Char :=
  if text.contains '.' then text else text ++ ['.', '0']

/-- The text of the absolute value of a finite number; `write` gets digits and exponent. -/
def magnitude (m : Nat) (e : Int) (write : Nat → Int → List Char) : List Char :=
  if m = 0 then write 0 0
  else
    let (digits, exponent) := shortest m e
    let (digits, exponent) := trimZeros 20 digits exponent
    write digits exponent

/-- Whether a positive number with these digits is shown with an exponent. -/
def isExtreme (digits : Nat) (exponent : Int) : Bool :=
  let power := exponent + (natDigits digits).length - 1
  digits != 0 && (power < -4 || 16 ≤ power)

/-- A number as a reader of code would write it. -/
def debugText : Binary64 → String
  | nan => "NaN"
  | infinite negative => if negative then "-inf" else "inf"
  | finite negative m e =>
    let text := magnitude m e fun digits exponent =>
      if isExtreme digits exponent then scientific digits exponent
      else withPoint (positional digits exponent)
    String.ofList (if negative then '-' :: text else text)

/-- A number without an exponent; a finite one always with a point. -/
def plainText : Binary64 → String
  | nan => "NaN"
  | infinite negative => if negative then "-inf" else "inf"
  | finite negative m e =>
    let text := withPoint (magnitude m e positional)
    String.ofList (if negative then '-' :: text else text)

end Mailroom.Binary64
