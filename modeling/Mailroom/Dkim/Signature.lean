import Mailroom.Dkim.Parameters
import Mailroom.Dkim.TagList

/-! # The signature field

The value of a signature field is a tag list whose last tag, `b=`, holds the signature.
`signatureText` writes the list up to and including `b=`.  Lines are folded: a tag, or a name in
the list of fields, goes to a new line when it would not fit into 76 octets (`FoldedText`). -/

namespace Mailroom.Dkim

/-- The name of a signature field. -/
def signatureField : String := "DKIM-Signature"

/-- The preferred length of a line in octets. -/
def foldWidth : Nat := 76

/-- The number of octets of a text. -/
def utf8Length (text : List Char) : Nat := text.foldr (fun c length => c.utf8Size + length) 0

/-- A value on its way: the text written, and the length of its last line in octets, the field
name in front of the first line included. -/
structure FoldedText where
  text : List Char
  width : Nat
deriving DecidableEq, Repr

namespace FoldedText

/-- Nothing written yet; a line starts behind the field name, the colon and a space. -/
def start : FoldedText := ⟨[], signatureField.length + 2⟩

/-- Breaks the line. -/
def breakLine (f : FoldedText) : FoldedText := ⟨f.text ++ ['\r', '\n', ' '], 1⟩

/-- Writes a text on the current line. -/
def write (f : FoldedText) (text : List Char) : FoldedText :=
  ⟨f.text ++ text, f.width + utf8Length text⟩

/-- Writes a tag after a space, or on a new line if it does not fit. -/
def addTag (f : FoldedText) (tag : List Char) : FoldedText :=
  if f.text.isEmpty then f.write tag
  else if foldWidth < f.width + 1 + utf8Length tag then f.breakLine.write tag
  else (f.write [' ']).write tag

/-- Writes a piece of a list, on a new line if it does not fit. -/
def addPiece (f : FoldedText) (piece : List Char) : FoldedText :=
  if foldWidth < f.width + utf8Length piece then f.breakLine.write piece else f.write piece

/-- Writes a tag that may be broken after every colon. -/
def addList (f : FoldedText) (tag : List Char) : FoldedText :=
  match splitAfter ':' tag with
  | [] => f
  | first :: pieces => pieces.foldl addPiece (f.addTag first)

end FoldedText

/-- The tags in front of the list of fields. -/
def leadingTags (parameters : Parameters) (keyType : String) : List String :=
  ["v=1", "a=" ++ keyType ++ "-" ++ parameters.hash.name,
    "c=" ++ parameters.headerMode.name ++ "/" ++ parameters.bodyMode.name,
    "d=" ++ parameters.domain, "s=" ++ parameters.selector,
    "t=" ++ String.ofList (intDigits parameters.timestamp)] ++
  (parameters.expiration.map fun x => "x=" ++ String.ofList (intDigits x)).toList ++
  (parameters.identifier.map fun i => "i=" ++ quotedPrintable i).toList

/-- The value of a signature field up to the empty signature. -/
def signatureText (parameters : Parameters) (keyType bodyHash : String) : String :=
  let folded := (leadingTags parameters keyType).foldl
    (fun f tag => f.addTag (tag.toList ++ [';'])) FoldedText.start
  let names := joinWith [':'] (parameters.headerKeys.map String.toList)
  let folded := folded.addList (['h', '='] ++ names ++ [';'])
  let folded := folded.addTag (['b', 'h', '='] ++ bodyHash.toList ++ [';'])
  String.ofList (folded.addTag ['b', '=']).text

end Mailroom.Dkim
