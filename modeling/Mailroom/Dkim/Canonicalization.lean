import Mailroom.Header.Parser

/-! # Canonical forms of header fields

Mail is changed a little on its way.  A signature is therefore computed over a canonical form
(RFC 6376, section 3.4), chosen for header and body independently:

* `simple` keeps every octet;
* `relaxed` lowers the field name, drops the blanks in front of the colon, unfolds the value,
  and writes each run of blanks as one space, with none at either end. -/

namespace Mailroom

/-- Puts an octet in front of a text in which runs of blanks are single spaces and no blank
stands at the end. -/
def consCollapsed (b : UInt8) (text : Bytes) : Bytes :=
  if Octet.isBlank b then
    match text with
    | [] => []
    | c :: _ => if c = Octet.space then text else Octet.space :: text
  else b :: text

/-- Every run of blanks written as one space, except for a run at the end, which is dropped. -/
def collapseBlanks (text : Bytes) : Bytes := text.foldr consCollapsed []

/-- The text without the line ends in it. -/
def unfold (text : Bytes) : Bytes := text.filter fun b => b != Octet.cr && b != Octet.lf

/-- A field value unfolded, with runs of blanks collapsed and none at either end. -/
def relaxedValue (raw : Bytes) : Bytes := collapseBlanks ((unfold raw).dropWhile Octet.isBlank)

namespace Dkim

/-- How header or body is brought into canonical form. -/
inductive Canonicalization where
  | simple
  | relaxed
deriving DecidableEq, Repr

instance : Inhabited Canonicalization := ⟨.relaxed⟩

namespace Canonicalization

/-- Every canonicalization, in the order in which a message lists them. -/
def all : List Canonicalization := [simple, relaxed]

/-- The name in configurations and in the `c=` tag. -/
def name : Canonicalization → String
  | simple => "simple"
  | relaxed => "relaxed"

/-- The canonicalization with this name, or what is wrong with the name. -/
def parse (name : String) : Except String Canonicalization :=
  if name = "simple" then .ok simple
  else if name = "relaxed" then .ok relaxed
  else .error ("unknown canonicalization: " ++ name)

/-- The canonical form of a field, without its line end. -/
def fieldText : Canonicalization → Field → Bytes
  | simple, f => utf8 f.name ++ Octet.colon :: f.raw
  | relaxed, f =>
    (dropTrailingBlanks (utf8 f.name)).map Octet.toLower ++ Octet.colon :: relaxedValue f.raw

/-- The canonical form of a field. -/
def field (mode : Canonicalization) (f : Field) : Bytes := mode.fieldText f ++ crlf

/-- The canonical forms of several fields, one after the other. -/
def fields (mode : Canonicalization) (fs : List Field) : Bytes := fs.flatMap mode.field

end Canonicalization

end Dkim

end Mailroom
