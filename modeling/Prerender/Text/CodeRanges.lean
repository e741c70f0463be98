/-!
# Ranges of code points

A character class is given by the closed ranges of code points it consists of.
`CodeRanges.contains` decides membership; the tables of `Prerender.Text.Word` and
`Prerender.Text.Printable` are read through it.
-/

namespace Prerender.Text

/-- Closed ranges of code points, each given by its first and its last member. -/
abbrev CodeRanges := List (Nat × Nat)

/-- A character belongs to a class when its code point lies in one of the class's ranges. -/
def CodeRanges.contains (ranges : CodeRanges) (c : Char) : Bool :=
  ranges.any fun range => range.1 ≤ c.toNat && c.toNat ≤ range.2

end Prerender.Text
