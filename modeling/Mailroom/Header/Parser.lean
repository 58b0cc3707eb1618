import Mailroom.Header.Basic

/-! # Reading a header section

The header section of a raw message is made of whole lines (`splitLines`).  The text of a line
is

* a *field line*: a non-empty name of graphic ASCII characters without a colon, blanks after it
  (an obsolete form that is kept in the name), a colon, and anything;
* a *continuation line*, which starts with a blank and belongs to the field above it;
* the empty line, which ends the section and is consumed;
* anything else, which starts the body and is not consumed.

`Header.parse` returns the header and the body.  Line ends inside a folded value are
normalized to CRLF, all other octets are kept. -/

namespace Mailroom

/-- The octets without the blanks at their end. -/
def dropTrailingBlanks (text : Bytes) : Bytes :=
  (text.reverse.dropWhile Octet.isBlank).reverse

/-- Whether these octets may stand in front of the colon of a field line. -/
def isFieldName (text : Bytes) : Bool :=
  let name := dropTrailingBlanks text
  !name.isEmpty && name.all Octet.isGraphic

/-- The text of ASCII octets. -/
def asciiText (bytes : Bytes) : String := String.ofList (bytes.map fun b => Char.ofNat b.toNat)

/-- The field that starts on a line with this text, or `none` if it is no field line. -/
def Field.ofLine? (text : Bytes) : Option Field :=
  match text.dropWhile (· != Octet.colon) with
  | [] => none
  | _ :: value =>
    let name := text.takeWhile (· != Octet.colon)
    if isFieldName name then some ⟨asciiText name, value⟩ else none

/-- Whether a line with this text continues the field above it. -/
def isContinuation : Bytes → Bool
  | [] => false
  | b :: _ => Octet.isBlank b

/-- Whether a line with this text belongs to a header section once a field has begun. -/
def isHeaderLine (text : Bytes) : Bool :=
  isContinuation text || (Field.ofLine? text).isSome

/-- Adds a line on top of the fields read below it; `folded` is what the continuation lines
right below this line add to the field that is still to come. -/
def prependLine (line : Bytes) : List Field × Bytes → List Field × Bytes
  | (fields, folded) =>
    let text := lineText line
    match Field.ofLine? text with
    | some f => (⟨f.name, f.raw ++ folded⟩ :: fields, [])
    | none => (fields, crlf ++ text ++ folded)

/-- The fields that a block of header lines denotes. -/
def assembleFields (lines : List Bytes) : List Field := (lines.foldr prependLine ([], [])).1

/-- The lines of the header section and the lines after it, the empty line with them.  A
section starts with a field line. -/
def headerBlock : List Bytes → List Bytes × List Bytes
  | [] => ([], [])
  | first :: lines =>
    if (Field.ofLine? (lineText first)).isSome then
      (first :: lines.takeWhile (isHeaderLine ∘ lineText),
        lines.dropWhile (isHeaderLine ∘ lineText))
    else ([], first :: lines)

/-- Drops the empty line at the head, if there is one. -/
def dropEmptyLine : List Bytes → List Bytes
  | [] => []
  | line :: lines => if (lineText line).isEmpty then lines else line :: lines

/-- Reads the header section of a raw message; the second part is the body. -/
def Header.parse (raw : Bytes) : Header × Bytes :=
  let (block, rest) := headerBlock (splitLines raw)
  (⟨assembleFields block⟩, (dropEmptyLine rest).flatten)

/-- The number of octets in front of the body. -/
def Header.parseOffset (raw : Bytes) : Nat := raw.length - (Header.parse raw).2.length

end Mailroom
