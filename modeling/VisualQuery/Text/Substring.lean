/-!
# Searching and replacing

Search and replacement over lists of characters. Replacement takes the leftmost occurrence first
and goes on behind it, so occurrences do not overlap.
-/

namespace VisualQuery.Text

/-- Whether `pattern` occurs in `cs`. -/
def occursIn (pattern : List Char) : (cs : List Char) → Bool
  | [] => pattern.isEmpty
  | c :: cs => pattern.isPrefixOf (c :: cs) || occursIn pattern cs

/-- Whether `pattern` occurs in the text. -/
def contains (s pattern : String) : Bool := occursIn pattern.toList s.toList

/-- Replaces every occurrence of `pattern` by `image`; the first `skip` characters belong to an
occurrence that has been replaced already. -/
def replaceFrom (pattern image : List Char) (skip : Nat) : (cs : List Char) → List Char
  | [] => []
  | c :: cs =>
    match skip with
    | skip + 1 => replaceFrom pattern image skip cs
    | 0 =>
      -- the first character of an occurrence is dropped here, the others are skipped
      if pattern.isPrefixOf (c :: cs) then
        image ++ replaceFrom pattern image (pattern.length - 1) cs
      else c :: replaceFrom pattern image 0 cs

/-- Replaces every occurrence of a pattern that is not empty. -/
def replaceAll (pattern image cs : List Char) : List Char := replaceFrom pattern image 0 cs

end VisualQuery.Text
