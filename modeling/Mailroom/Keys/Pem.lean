import Mailroom.Encoding.Base64
import Mailroom.Text.Utf8

/-! # Textual encoding of keys

A key file is a text block between a BEGIN line and an END line with the same label (RFC 7468).
`Pem.read?` is strict: what stands between is base64 in lines of 64 characters, only the last of
which may be shorter; text may stand in front of the BEGIN line, but after the END line there
is at most one line end.  A line ends in LF, CR LF or CR. -/

namespace Mailroom.Pem

/-- The width of a full line. -/
def lineWidth : Nat := 64

/-- What starts a block. -/
def beginMark : List Char := "-----BEGIN ".toList

/-- What ends a block. -/
def endMark : List Char := "-----END ".toList

/-- What closes a boundary line. -/
def dashes : List Char := "-----".toList

/-! ### Writing -/

/-- Cuts a text into lines of the full width. -/
def wrap (text : List Char) : List (List Char) :=
  if text.length ≤ lineWidth then [text]
  else text.take lineWidth :: wrap (text.drop lineWidth)
termination_by text.length
decreasing_by
  have : 0 < lineWidth := by decide
  rw [List.length_drop]; omega

/-- A block with this label. -/
def write (label : String) (content : Bytes) : String :=
  String.ofList <|
    beginMark ++ label.toList ++ dashes ++ '\n' ::
      (wrap (base64Chars content)).flatMap (· ++ ['\n']) ++
      endMark ++ label.toList ++ dashes ++ ['\n']

/-! ### Reading -/

/-- The text behind a given start, if it starts so. -/
def after? (start text : List Char) : Option (List Char) :=
  if start.isPrefixOf text then some (text.drop start.length) else none

/-- The text in front of a given end, if it ends so. -/
def before? (tail text : List Char) : Option (List Char) :=
  if tail.isSuffixOf text then some (text.take (text.length - tail.length)) else none

/-- Drops the text in front of the first line that starts with `beginMark`; a NUL character
must not stand there. -/
def skipPreamble? : List Char → Option (List Char)
  | [] => none
  | c :: text =>
    if c = '\x00' then none
    else if c = '\n' && beginMark.isPrefixOf text then some text
    else skipPreamble? text

/-- Drops a line end at the start. -/
def dropLineEnd? : List Char → Option (List Char)
  | '\r' :: '\n' :: text => some text
  | '\r' :: text => some text
  | '\n' :: text => some text
  | _ => none

/-- Drops a line end at the end. -/
def dropFinalLineEnd? (text : List Char) : Option (List Char) :=
  match text.reverse with
  | '\n' :: '\r' :: rest => some rest.reverse
  | '\n' :: rest => some rest.reverse
  | '\r' :: rest => some rest.reverse
  | _ => none

/-- Joins lines of base64; every line but the last has the full width. -/
def joinLines? (text : List Char) : Option (List Char) :=
  if text.length ≤ lineWidth then some text
  else
    match dropLineEnd? (text.drop lineWidth) with
    | none => none
    | some rest =>
      if rest.length < text.length then (joinLines? rest).map (text.take lineWidth ++ ·) else none
termination_by text.length

/-- The content of the block with this label in a text. -/
def read? (label text : String) : Option Bytes := do
  let text := text.toList
  let block ← if beginMark.isPrefixOf text then some text else skipPreamble? text
  let block ← after? (beginMark ++ label.toList ++ dashes) block
  let block ← dropLineEnd? block
  let block ← before? (endMark ++ label.toList ++ dashes) ((dropFinalLineEnd? block).getD block)
  let block ← dropFinalLineEnd? block
  unbase64? (← joinLines? block)

end Mailroom.Pem
