import Mailroom.Bytes
import Mailroom.Text.Ascii
import Mailroom.Text.Blank
import Mailroom.Text.Utf8

/-! # Header fields and header sections

A `Header` is the ordered list of the fields of a message, the topmost field first.  Names may
repeat and are compared without regard to ASCII case.  A field keeps its value as octets,
exactly as they stand on the wire (leading blanks, folding and 8-bit octets included), because
signatures depend on every one of them.

New fields go on top (`Header.add`, `Header.addField`), the place of trace fields and
signatures. -/

namespace Mailroom

/-- A header field: its name and everything between the colon and the final line end. -/
structure Field where
  name : String
  raw : Bytes
deriving DecidableEq, Repr, Inhabited

namespace Field

/-- The field with this unfolded value, written after one space. -/
def new (name value : String) : Field := ⟨name, Octet.space :: utf8 value⟩

/-- The value as text: ill-formed octets replaced, surrounding white space trimmed. -/
def value (f : Field) : String := String.ofList (trimChars (decodeLossyChars f.raw))

/-- Whether the field has this name, up to ASCII case. -/
def isNamed (f : Field) (name : String) : Bool := equalsIgnoringCase f.name name

/-- The field as it goes on the wire, line end included. -/
def toBytes (f : Field) : Bytes := utf8 f.name ++ Octet.colon :: f.raw ++ crlf

end Field

/-- The header section of a message, topmost field first. -/
structure Header where
  fields : List Field := []
deriving DecidableEq, Repr, Inhabited

namespace Header

/-- The number of fields. -/
def size (h : Header) : Nat := h.fields.length

/-- The fields with this name, top to bottom. -/
def fieldsNamed (h : Header) (name : String) : List Field :=
  h.fields.filter (·.isNamed name)

/-- The value of the topmost field with this name. -/
def get? (h : Header) (name : String) : Option String :=
  (h.fields.find? (·.isNamed name)).map Field.value

/-- The number of fields with this name. -/
def count (h : Header) (name : String) : Nat := (h.fieldsNamed name).length

/-- Whether a field with this name exists. -/
def contains (h : Header) (name : String) : Bool := h.fields.any (·.isNamed name)

/-- Puts a field on top. -/
def addField (h : Header) (f : Field) : Header := ⟨f :: h.fields⟩

/-- Puts a field with this name and unfolded value on top. -/
def add (h : Header) (name value : String) : Header := h.addField (Field.new name value)

/-- Puts the fields of `above` on top, in their order. -/
def prepend (above h : Header) : Header := ⟨above.fields ++ h.fields⟩

/-- The header section on the wire: every field, then the empty line. -/
def toBytes (h : Header) : Bytes := h.fields.flatMap Field.toBytes ++ crlf

@[simp] theorem fields_addField (h : Header) (f : Field) : (h.addField f).fields = f :: h.fields :=
  rfl

@[simp] theorem fields_add (h : Header) (name value : String) :
    (h.add name value).fields = Field.new name value :: h.fields := rfl

@[simp] theorem fields_prepend (above h : Header) :
    (above.prepend h).fields = above.fields ++ h.fields := rfl

theorem toBytes_addField (h : Header) (f : Field) :
    (h.addField f).toBytes = f.toBytes ++ h.toBytes := by
  simp [toBytes]

end Header

end Mailroom
