/-! # ASCII case

Field names, domains, algorithm names and a few keywords are compared without regard to the
case of ASCII letters; all other characters, accented letters included, must agree exactly.
`lowerAscii` gives the common form and `equalsIgnoringCase` compares. -/

namespace Mailroom

/-- ASCII upper-case letters lowered, every other character kept. -/
def lowerAscii (s : String) : String := String.ofList (s.toList.map Char.toLower)

/-- Equality up to the case of ASCII letters. -/
def equalsIgnoringCase (a b : String) : Bool :=
  a.toList.map Char.toLower == b.toList.map Char.toLower

theorem equalsIgnoringCase_iff {a b : String} :
    equalsIgnoringCase a b = true ↔ lowerAscii a = lowerAscii b := by
  simp [equalsIgnoringCase, lowerAscii, ← String.toList_inj]

/-- White space in the ASCII sense: space, tab, line feed, form feed, carriage return. -/
def isAsciiWhitespace (c : Char) : Bool :=
  c == ' ' || c == '\t' || c == '\n' || c == '\x0c' || c == '\r'

end Mailroom
