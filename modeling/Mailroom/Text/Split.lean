/-! # Cutting text at a separator

Addresses are cut at `@`, tag lists at `;` and `=`, configuration words at blanks.  `cutFirst`
and `cutLast` cut once, `splitAt` everywhere. -/

namespace Mailroom

/-- What stands before and after the first `sep`, or `none` without one. -/
def cutFirst (sep : Char) : List Char → Option (List Char × List Char)
  | [] => none
  | c :: text =>
    if c = sep then some ([], text)
    else (cutFirst sep text).map fun (before, after) => (c :: before, after)

/-- What stands before and after the last `sep`, or `none` without one. -/
def cutLast (sep : Char) (text : List Char) : Option (List Char × List Char) :=
  (cutFirst sep text.reverse).map fun (after, before) => (before.reverse, after.reverse)

/-- Puts a character in front of the first of several pieces. -/
def consPiece (c : Char) : List (List Char) → List (List Char)
  | [] => [[c]]
  | piece :: pieces => (c :: piece) :: pieces

/-- The pieces between the separators; one more piece than there are separators. -/
def splitAt (sep : Char) (text : List Char) : List (List Char) :=
  text.foldr (fun c pieces => if c = sep then [] :: pieces else consPiece c pieces) [[]]

/-- The pieces that end right after each separator, and the rest if there is one. -/
def splitAfter (sep : Char) (text : List Char) : List (List Char) :=
  text.foldr (fun c pieces => if c = sep then [c] :: pieces else consPiece c pieces) []

/-- The pieces with `sep` between them. -/
def joinWith (sep : List Char) (pieces : List (List Char)) : List Char :=
  (pieces.intersperse sep).flatten

end Mailroom
