/-!
# Ranges of code points

A character class that is too large to spell out is a table: a `CodeRanges`, ascending pairs of a
first and a last code point. `CodeRanges.has` is membership.
-/

namespace CoachScript

/-- Inclusive ranges of code points. -/
abbrev CodeRanges := List (Nat × Nat)

/-- The character lies in one of the ranges. -/
def CodeRanges.has (ranges : CodeRanges) (c : Char) : Bool :=
  ranges.any fun range => range.1 ≤ c.toNat && c.toNat ≤ range.2

end CoachScript
