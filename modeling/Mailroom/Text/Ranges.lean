/-! # Ranges of code points

Unicode properties are tables of inclusive ranges; `inRanges` looks a character up. -/

namespace Mailroom

/-- Whether a code point lies in one of the inclusive ranges. -/
def inRanges (ranges : List (Nat × Nat)) (c : Char) : Bool :=
  ranges.any fun (first, last) => first ≤ c.toNat && c.toNat ≤ last

end Mailroom
