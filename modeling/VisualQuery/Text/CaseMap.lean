import VisualQuery.Text.CaseMap.Table

/-!
# Upper and lower case

The full case mappings of Unicode, without a locale: a character may map to several, and a capital
sigma maps to the final form `ς` at the end of a word. Letters that have no case stay as they are.
-/

namespace VisualQuery.Text

/-- The character a table of runs sends `c` to, if it lists `c`. -/
def shiftedBy (runs : List CaseRun) (c : Char) : Option Char :=
  (runs.find? fun run =>
    run.first ≤ c.toNat && c.toNat ≤ run.last && (c.toNat - run.first) % run.stride == 0).map
    fun run => Char.ofNat (Int.toNat (c.toNat + run.shift))

/-- The case mapping of one character: its expansion, else its single image, else itself. -/
def mapCase (expansions : List (Nat × List Nat)) (runs : List CaseRun) (c : Char) : List Char :=
  match expansions.lookup c.toNat with
  | some image => image.map Char.ofNat
  | none => [(shiftedBy runs c).getD c]

/-- The upper case of one character. -/
def upperChar (c : Char) : List Char :=
  if c.toNat < 0x80 then [c.toUpper] else mapCase upperExpansions upperRuns c

/-- The lower case of one character, where its neighbours play no part. -/
def lowerChar (c : Char) : List Char :=
  if c.toNat < 0x80 then [c.toLower] else mapCase lowerExpansions lowerRuns c

/-- The text in upper case. -/
def toUpper (s : String) : String := String.ofList (s.toList.flatMap upperChar)

/-- Whether the first character that is not case-ignorable has a case. -/
def casedNext (cs : List Char) : Bool :=
  ((cs.dropWhile caseIgnorableRanges.contains).head?.map casedRanges.contains).getD false

/-- The lower case of `rest`, which stands behind the reversed text `before`. -/
def lowerAfter (before : List Char) : (rest : List Char) → List Char
  | [] => []
  | c :: rest =>
    let image :=
      -- a word ends where a cased letter comes before and none comes behind
      if c == 'Σ' then [if casedNext before && !casedNext rest then 'ς' else 'σ'] else lowerChar c
    image ++ lowerAfter (c :: before) rest

/-- The text in lower case. -/
def toLower (s : String) : String := String.ofList (lowerAfter [] s.toList)

/-- Equality of two texts in which the case of the ASCII letters plays no part. -/
def equalAsciiCaseless (s t : String) : Bool :=
  s.toList.map Char.toLower == t.toList.map Char.toLower

end VisualQuery.Text
