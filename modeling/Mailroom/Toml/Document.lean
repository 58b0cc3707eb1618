import Mailroom.Toml.Scalar
import Mailroom.Toml.Section

/-! # Reading a document

`Toml.parse?` reads a whole document.  Lines are blank, a comment, a section header, or a key with
a value.  Values nest at most `maxDepth` deep. -/

namespace Mailroom.Toml

/-! ### Values -/

/-- The text behind white space, line ends and comments; `fuel` bounds their number. -/
def skipInArray : Nat → List Char → List Char
  | 0, text => text
  | fuel + 1, text =>
    let text := skipBlanks text
    let rest := skipComment text
    match lineEnd? rest with
    | some next => skipInArray fuel next
    | none => text

/-- White space, line ends and comments skipped. -/
def skipLayout (text : List Char) : List Char := skipInArray text.length text

mutual

/-- A value.  `depth` more brackets may open; `fuel` bounds the number of steps. -/
def value? : Nat → Nat → Reader Value
  | 0, _, _ => none
  | _, _, [] => none
  | fuel + 1, depth, c :: text =>
    if c = '"' || c = '\'' then (string? (c :: text)).map fun (s, rest) => (.string s, rest)
    else if c = '[' then
      match depth with
      | 0 => none
      | depth + 1 => do
        let (items, rest) ← items? fuel depth (skipLayout text)
        return (.array false items, rest)
    else if c = '\x7b' then
      match depth with
      | 0 => none
      | depth + 1 => do
        let (table, rest) ← pairs? fuel depth {} text
        return (.table .braces table, rest)
    else if c.isDigit || c = '+' || c = '-' || c = 'i' || c = 'n' then number? (c :: text)
    else boolean? (c :: text)

/-- The items of an array up to its end; a comma may follow the last one. -/
def items? : Nat → Nat → Reader (List Value)
  | 0, _, _ => none
  | _, _, ']' :: text => some ([], text)
  | fuel + 1, depth, text => do
    let (item, text) ← value? fuel depth text
    match skipLayout text with
    | ',' :: text =>
      let (items, text) ← items? fuel depth (skipLayout text)
      return (item :: items, text)
    | ']' :: text => return ([item], text)
    | _ => none

/-- The entries of a table between braces up to its end, added to those read before. -/
def pairs? : Nat → Nat → Table → Reader Table
  | 0, _, _, _ => none
  | fuel + 1, depth, table, text =>
    match skipBlanks text with
    | '\x7d' :: rest => if table.entries.isEmpty then some (table, rest) else none
    | text => do
      let ((path, key), text) ← key? text
      let text ← expect? '=' text
      let (value, text) ← value? fuel depth (skipBlanks text)
      let table ← addEntry path key value .braces table
      match skipBlanks text with
      | ',' :: text => pairs? fuel depth table text
      | '\x7d' :: text => return (table, text)
      | _ => none

end

/-! ### Lines -/

/-- What was read of a document: its table, and the path of the present section. -/
structure Draft where
  root : Table := {}
  path : List String := []

/-- A section header in front of a text. -/
def header? (draft : Draft) (text : List Char) : Option (Draft × List Char) :=
  match text with
  | '[' :: text => do
    let ((path, key), text) ← key? text
    let text ← lineRest? (← expect? ']' (← expect? ']' text))
    return (⟨← openItem path key draft.root, path ++ [key]⟩, text)
  | _ => do
    let ((path, key), text) ← key? text
    let text ← lineRest? (← expect? ']' text)
    return (⟨← openTable path key draft.root, path ++ [key]⟩, text)

/-- A key with a value in front of a text. -/
def nodeAt? (draft : Draft) (text : List Char) : Option (Draft × List Char) := do
  let ((path, key), text) ← key? text
  let text ← expect? '=' text
  let (value, text) ← value? (2 * text.length + 2) maxDepth (skipBlanks text)
  let text ← lineRest? text
  return (⟨← addToSection draft.path path key value draft.root, draft.path⟩, text)

/-- Reads line by line; `fuel` bounds the number of lines. -/
def lines? : Nat → Draft → List Char → Option Table
  | 0, _, _ => none
  | fuel + 1, draft, text =>
    match skipBlanks text with
    | [] => some draft.root
    | '#' :: _ => do lines? fuel draft (← lineRest? text)
    | '\n' :: rest => lines? fuel draft rest
    | '\r' :: rest => do lines? fuel draft (← expect? '\n' rest)
    | '[' :: rest => do
      let (draft, rest) ← header? draft rest
      lines? fuel draft rest
    | text => do
      let (draft, rest) ← nodeAt? draft text
      lines? fuel draft rest

/-- The text without a byte order mark at its start. -/
def skipMark : List Char → List Char
  | '\uFEFF' :: text => text
  | text => text

/-- The table that a document denotes. -/
def parse? (document : String) : Option Table :=
  let text := skipMark document.toList
  lines? (text.length + 1) {} text

end Mailroom.Toml
