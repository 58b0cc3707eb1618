/-! # Replacing text

`replaceAll` puts one text in the place of every occurrence of another, from left to right;
occurrences do not overlap, and what was put in is not searched again. -/

namespace Mailroom

/-- Replaces the occurrences of `old` after dropping `skip` characters of one that was found. -/
def replaceFrom (old new : List Char) (skip : Nat) : List Char → List Char
  | [] => []
  | c :: text =>
    match skip with
    | skip + 1 => replaceFrom old new skip text
    | 0 =>
      if old.isPrefixOf (c :: text) then new ++ replaceFrom old new (old.length - 1) text
      else c :: replaceFrom old new 0 text

/-- Replaces every occurrence of `old`, which is not empty, by `new`. -/
def replaceAll (old new : String) (text : String) : String :=
  String.ofList (replaceFrom old.toList new.toList 0 text.toList)

end Mailroom
