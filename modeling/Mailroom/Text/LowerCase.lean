import Mailroom.Text.CaseTable
import Mailroom.Text.Cased

/-! # Lower-case text

Account names are lower-cased with the full mapping of Unicode.  Three rules make it up:

* a character with a simple lower-case form is replaced by that form (`lowerChar`);
* `İ` (capital I with a dot) becomes `i` and a combining dot;
* `Σ` becomes `ς` at the end of a word and `σ` elsewhere (`lowerSigma`).

The mapping does not depend on a locale. -/

namespace Mailroom

/-- The lower-case form of a single character, the capital sigma's not at the end of a word. -/
def lowerChar (c : Char) : List Char :=
  if c.toNat < 0x80 then [c.toLower]
  else if c = '\u0130' then ['i', '\u0307']
  else match lowerCaseRuns.find? (·.contains c.toNat) with
    | some run => [Char.ofNat (c.toNat + run.shift).toNat]
    | none => [c]

/-- Whether the first character that is not case-ignorable exists and is cased. -/
def reachesCased (text : List Char) : Bool :=
  match text.dropWhile isCaseIgnorable with
  | c :: _ => isCased c
  | [] => false

/-- The lower-case sigma between the text `before` it, read backwards, and `after` it: final
if a cased letter comes before and none after. -/
def lowerSigma (before after : List Char) : Char :=
  if reachesCased before && !reachesCased after then 'ς' else 'σ'

/-- The lower-case form of a text that follows `before`, which is given backwards. -/
def lowerFrom (before : List Char) : List Char → List Char
  | [] => []
  | c :: text =>
    (if c = 'Σ' then [lowerSigma before text] else lowerChar c) ++ lowerFrom (c :: before) text

/-- The lower-case form of a list of characters. -/
def lowerChars (text : List Char) : List Char := lowerFrom [] text

/-- The lower-case form of a text. -/
def lowerCase (s : String) : String := String.ofList (lowerChars s.toList)

end Mailroom
