import Mailroom.Bytes

/-! # Text on the wire: UTF-8

`utf8` writes a text as octets.  In the other direction octets need not form a text, so the
decoder (`Utf8.characters`) answers with one item per character and one item `none` per
ill-formed stretch.  An ill-formed stretch is as long as it can be while it still begins some
well-formed character (Unicode, "substitution of maximal subparts"); an octet that begins no
character is a stretch of its own.

* `decodeUtf8?` reads well-formed octets only;
* `decodeLossyChars` reads every byte string and writes U+FFFD for each ill-formed stretch.

The decoder is a machine that takes one octet at a time (`Utf8.Pending`): the tail octets it
still owes, the range the next one must lie in, and the code point read so far. -/

namespace Mailroom

/-- The octets of a list of characters. -/
def utf8Chars (text : List Char) : Bytes := text.flatMap String.utf8EncodeChar

/-- The octets of a text. -/
def utf8 (s : String) : Bytes := utf8Chars s.toList

namespace Utf8

/-- A character of which some octets have been read: `owed` tail octets follow, the next of
them lies between `low` and `high`, and `code` collects the bits. -/
structure Pending where
  owed : Nat
  low : UInt8
  high : UInt8
  code : Nat
deriving DecidableEq, Repr

/-- What the first octet of a character leaves owed: nothing for an ASCII octet, one to three
tail octets for a lead octet, and `none` if no character starts with this octet. -/
def Pending.ofLead? (b : UInt8) : Option Pending :=
  if 0xC2 ≤ b && b ≤ 0xDF then some ⟨1, 0x80, 0xBF, b.toNat - 0xC0⟩
  else if b == 0xE0 then some ⟨2, 0xA0, 0xBF, 0⟩
  else if b == 0xED then some ⟨2, 0x80, 0x9F, 13⟩
  else if 0xE1 ≤ b && b ≤ 0xEF then some ⟨2, 0x80, 0xBF, b.toNat - 0xE0⟩
  else if b == 0xF0 then some ⟨3, 0x90, 0xBF, 0⟩
  else if 0xF1 ≤ b && b ≤ 0xF3 then some ⟨3, 0x80, 0xBF, b.toNat - 0xF0⟩
  else if b == 0xF4 then some ⟨3, 0x80, 0x8F, 4⟩
  else none

/-- The decoder between two octets: the items read so far, last one first, and the character
that is being read. -/
structure Decoder where
  items : List (Option Char) := []
  pending : Option Pending := none

/-- Takes the first octet of a character. -/
def Decoder.start (items : List (Option Char)) (b : UInt8) : Decoder :=
  if b < 0x80 then ⟨some (Char.ofNat b.toNat) :: items, none⟩
  else match Pending.ofLead? b with
    | some p => ⟨items, some p⟩
    | none => ⟨none :: items, none⟩

/-- Takes one octet.  An octet that does not continue the pending character ends it as an
ill-formed stretch and is then read as a first octet. -/
def Decoder.step (d : Decoder) (b : UInt8) : Decoder :=
  match d.pending with
  | none => Decoder.start d.items b
  | some p =>
    if p.low ≤ b && b ≤ p.high then
      let code := p.code * 64 + (b.toNat - 0x80)
      if p.owed = 1 then ⟨some (Char.ofNat code) :: d.items, none⟩
      else ⟨d.items, some ⟨p.owed - 1, 0x80, 0xBF, code⟩⟩
    else Decoder.start (none :: d.items) b

/-- All items, in order; a character cut off by the end is ill-formed. -/
def Decoder.finish (d : Decoder) : List (Option Char) :=
  match d.pending with
  | none => d.items.reverse
  | some _ => (none :: d.items).reverse

/-- The characters of a byte string, `none` for each ill-formed stretch. -/
def characters (bytes : Bytes) : List (Option Char) :=
  (bytes.foldl Decoder.step {}).finish

end Utf8

/-- The text that these octets encode, if they are well-formed. -/
def decodeUtf8? (bytes : Bytes) : Option String :=
  let items := Utf8.characters bytes
  if items.all Option.isSome then some (String.ofList (items.filterMap id)) else none

/-- The characters of these octets, U+FFFD standing for each ill-formed stretch. -/
def decodeLossyChars (bytes : Bytes) : List Char :=
  (Utf8.characters bytes).map (·.getD '\uFFFD')

end Mailroom
