/-!
# Sets of characters as lists of code point ranges

A character property of the Unicode Character Database is stored as the list of its ranges,
each with both ends included. Membership is a plain search: the tables are small and a text is
short.
-/

namespace VisualQuery.Text

/-- A set of code points: ranges with both ends included. -/
abbrev Ranges := List (Nat × Nat)

/-- Whether a character lies in one of the ranges. -/
def Ranges.contains (ranges : Ranges) (c : Char) : Bool :=
  ranges.any fun range => range.1 ≤ c.toNat && c.toNat ≤ range.2

end VisualQuery.Text
