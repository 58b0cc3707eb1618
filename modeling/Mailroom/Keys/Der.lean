import Mailroom.Crypto.Modular
import Mailroom.Crypto.Sha2

/-! # Distinguished encoding

Keys are written in the distinguished encoding rules of ASN.1 (X.690).  An *element* is a tag octet,
a length and a content.  Lengths have one spelling only, the shortest, and so do integers.
Writing is `Der.element` and `Der.natural`; reading is `Der.readElement?` and what is built on
it. -/

namespace Mailroom.Der

/-- Tag of an integer. -/
def integerTag : UInt8 := 0x02

/-- Tag of a bit string. -/
def bitStringTag : UInt8 := 0x03

/-- Tag of an octet string. -/
def octetStringTag : UInt8 := 0x04

/-- Tag of the null value. -/
def nullTag : UInt8 := 0x05

/-- Tag of an object identifier. -/
def identifierTag : UInt8 := 0x06

/-- Tag of a sequence. -/
def sequenceTag : UInt8 := 0x30

/-! ### Writing -/

/-- The longest element that is written, in octets. -/
def maxLength : Nat := Nat.pow 2 28 - 1

/-- The number of octets that a number needs, one for zero. -/
def octetCount (n : Nat) : Nat := max 1 ((bitLength n + 7) / 8)

/-- A length. -/
def length (n : Nat) : Bytes :=
  if n < 128 then [UInt8.ofNat n]
  else UInt8.ofNat (128 + octetCount n) :: Sha2.bigEndian (octetCount n) n

/-- An element. -/
def element (tag : UInt8) (content : Bytes) : Bytes := tag :: length content.length ++ content

/-- A sequence of elements. -/
def sequence (elements : List Bytes) : Bytes := element sequenceTag elements.flatten

/-- The octets of a natural number as an integer; the first bit is zero. -/
def naturalOctets (n : Nat) : Bytes :=
  let octets := Sha2.bigEndian (octetCount n) n
  match octets with
  | b :: _ => if 0x80 ≤ b then 0 :: octets else octets
  | [] => octets

/-- A natural number. -/
def natural (n : Nat) : Bytes := element integerTag (naturalOctets n)

/-! ### Reading -/

/-- Reads a length: one octet, or the shortest form of a longer one, up to four octets. -/
def readLength? : Bytes → Option (Nat × Bytes)
  | [] => none
  | b :: rest =>
    if b < 0x80 then some (b.toNat, rest)
    else
      let count := b.toNat - 128
      let octets := rest.take count
      let n := natOfBytes octets
      if count = 0 || 4 < count || octets.length < count || length n != b :: octets then none
      else some (n, rest.drop count)

/-- An element that was read. -/
structure Element where
  tag : UInt8
  content : Bytes
deriving DecidableEq, Repr

/-- Reads an element and returns what follows it. -/
def readElement? : Bytes → Option (Element × Bytes)
  | [] => none
  | tag :: rest => do
    let (n, rest) ← readLength? rest
    if rest.length < n then none else some (⟨tag, rest.take n⟩, rest.drop n)

theorem length_of_readLength? {input rest : Bytes} {n : Nat}
    (h : readLength? input = some (n, rest)) : rest.length < input.length := by
  cases input with
  | nil => simp [readLength?] at h
  | cons b tail =>
      simp only [readLength?] at h
      split at h
      · simp only [Option.some.injEq, Prod.mk.injEq] at h
        simp [h.2]
      · split at h
        · simp at h
        · simp only [Option.some.injEq, Prod.mk.injEq] at h
          rw [← h.2, List.length_drop, List.length_cons]
          omega

/-- Reading an element takes octets away. -/
theorem length_of_readElement? {input rest : Bytes} {e : Element}
    (h : readElement? input = some (e, rest)) : rest.length < input.length := by
  cases input with
  | nil => simp [readElement?] at h
  | cons tag tail =>
      simp only [readElement?, Option.bind_eq_bind, Option.bind_eq_some_iff] at h
      obtain ⟨⟨n, behind⟩, hn, h⟩ := h
      have := length_of_readLength? hn
      split at h
      · simp at h
      · simp only [Option.some.injEq, Prod.mk.injEq] at h
        rw [← h.2, List.length_drop, List.length_cons]
        omega

/-- Reads an element with this tag. -/
def expect? (tag : UInt8) (input : Bytes) : Option (Bytes × Bytes) := do
  let (e, rest) ← readElement? input
  if e.tag = tag then some (e.content, rest) else none

/-- Reads a single element with this tag, and nothing after it. -/
def whole? (tag : UInt8) (input : Bytes) : Option Bytes := do
  let (content, rest) ← expect? tag input
  if rest.isEmpty then some content else none

/-- Reads a natural number in its only spelling. -/
def readNatural? (input : Bytes) : Option (Nat × Bytes) := do
  let (content, rest) ← expect? integerTag input
  let n := natOfBytes content
  if content = naturalOctets n then some (n, rest) else none

/-- Reads so many natural numbers. -/
def readNaturals? : Nat → Bytes → Option (List Nat × Bytes)
  | 0, input => some ([], input)
  | count + 1, input => do
    let (n, input) ← readNatural? input
    let (ns, input) ← readNaturals? count input
    return (n :: ns, input)

end Mailroom.Der
