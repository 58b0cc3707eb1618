/-! # Octets

Mail travels as octets, and everything that is signed, stored or compared byte for byte is a
list of them (`Bytes`).  This file names the octets that have a meaning of their own in a
message (`Octet.cr`, `Octet.lf`, `Octet.colon`, …), the classes that the header grammar uses
(`Octet.isBlank`, `Octet.isGraphic`), and cuts a byte string into its lines (`splitLines`).

Main facts: `flatten_splitLines` (cutting loses nothing) and `hexDigits` (lower-case
hexadecimal text of a byte string). -/

namespace Mailroom

/-- A sequence of octets. -/
abbrev Bytes := List UInt8

namespace Octet

/-- Carriage return. -/
def cr : UInt8 := 13

/-- Line feed. -/
def lf : UInt8 := 10

/-- Space. -/
def space : UInt8 := 32

/-- Horizontal tab. -/
def tab : UInt8 := 9

/-- Colon, the end of a field name. -/
def colon : UInt8 := 58

/-- Space or horizontal tab. -/
def isBlank (b : UInt8) : Bool := b == space || b == tab

/-- A printable ASCII octet other than space. -/
def isGraphic (b : UInt8) : Bool := 33 ≤ b && b ≤ 126

/-- ASCII upper-case letters are lowered, all other octets are kept. -/
def toLower (b : UInt8) : UInt8 := if 65 ≤ b && b ≤ 90 then b + 32 else b

end Octet

/-- The line end on the wire. -/
def crlf : Bytes := [Octet.cr, Octet.lf]

/-! ### Lines -/

/-- Puts an octet in front of the first line of a list of lines. -/
def consLine (b : UInt8) : List Bytes → List Bytes
  | [] => [[b]]
  | line :: lines => (b :: line) :: lines

/-- Cuts after every line feed.  Each line keeps its line feed; the last one may lack it. -/
def splitLines (raw : Bytes) : List Bytes :=
  raw.foldr (fun b lines => if b = Octet.lf then [b] :: lines else consLine b lines) []

theorem flatten_consLine (b : UInt8) (lines : List Bytes) :
    (consLine b lines).flatten = b :: lines.flatten := by
  cases lines <;> rfl

/-- **Cutting into lines loses nothing.** -/
theorem flatten_splitLines (raw : Bytes) : (splitLines raw).flatten = raw := by
  induction raw with
  | nil => rfl
  | cons b raw ih =>
      simp only [splitLines, List.foldr_cons] at ih ⊢
      split
      · simp [ih]
      · rw [flatten_consLine, ih]

/-- `bytes` without its last octet, if that octet is `b`. -/
def dropFinal (b : UInt8) (bytes : Bytes) : Bytes :=
  if bytes.getLast? = some b then bytes.dropLast else bytes

/-- The text of a line: its octets without the line feed and then without one carriage
return. -/
def lineText (line : Bytes) : Bytes := dropFinal Octet.cr (dropFinal Octet.lf line)

/-! ### Hexadecimal text -/

/-- The lower-case hexadecimal digit of a number below sixteen. -/
def hexDigit (n : Nat) : Char := if n < 10 then Char.ofNat (48 + n) else Char.ofNat (87 + n)

/-- The two hexadecimal digits of every octet, in order. -/
def hexDigits (bytes : Bytes) : List Char :=
  bytes.flatMap fun b => [hexDigit (b.toNat / 16), hexDigit (b.toNat % 16)]

/-- Lower-case hexadecimal text of a byte string. -/
def Bytes.toHex (bytes : Bytes) : String := String.ofList (hexDigits bytes)

/-- The value of a hexadecimal digit. -/
def hexValue? (c : Char) : Option Nat :=
  if c.isDigit then some (c.toNat - 48)
  else if 'a' ≤ c ∧ c ≤ 'f' then some (c.toNat - 87)
  else if 'A' ≤ c ∧ c ≤ 'F' then some (c.toNat - 55)
  else none

/-- The byte string that pairs of hexadecimal digits denote. -/
def Bytes.ofHex? : List Char → Option Bytes
  | [] => some []
  | [_] => none
  | a :: b :: text => do
    return UInt8.ofNat ((← hexValue? a) * 16 + (← hexValue? b)) :: (← Bytes.ofHex? text)

end Mailroom
