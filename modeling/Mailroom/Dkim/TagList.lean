import Mailroom.Bytes
import Mailroom.Text.Blank
import Mailroom.Text.Split
import Mailroom.Text.Utf8

/-! # Tag lists

A signature field holds a list of tags `name=value` between semicolons (RFC 6376, section 3.2).
`readTags` reads such a list and ignores the white space that folding brought in.
`quotedPrintable` encodes a value so that it can stand in the list: only printable ASCII
characters other than `;` and `=` stand for themselves. -/

namespace Mailroom.Dkim

/-- The text without any white space. -/
def withoutWhiteSpace (text : List Char) : List Char := text.filter fun c => !isWhiteSpace c

/-- The tags of a list with their values.  A piece without `=` is no tag. -/
def readTags (value : String) : List (String × String) :=
  (splitAt ';' value.toList).filterMap fun piece =>
    (cutFirst '=' piece).map fun (name, value) =>
      (String.ofList (withoutWhiteSpace name), String.ofList (withoutWhiteSpace value))

/-- Whether an octet stands for itself in a quoted value. -/
def isTagSafe (b : UInt8) : Bool :=
  (0x21 ≤ b && b ≤ 0x3A) || b == 0x3C || (0x3E ≤ b && b ≤ 0x7E)

/-- The upper-case hexadecimal digit of a number below sixteen. -/
def upperHexDigit (n : Nat) : Char :=
  if n < 10 then Char.ofNat (48 + n) else Char.ofNat (55 + n)

/-- An octet inside a quoted value. -/
def quotedOctet (b : UInt8) : List Char :=
  if isTagSafe b then [Char.ofNat b.toNat]
  else ['=', upperHexDigit (b.toNat / 16), upperHexDigit (b.toNat % 16)]

/-- A text as a quoted value. -/
def quotedPrintable (value : String) : String := String.ofList ((utf8 value).flatMap quotedOctet)

end Mailroom.Dkim
