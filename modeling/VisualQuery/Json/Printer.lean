import VisualQuery.Json.Value
import VisualQuery.Text.Hexadecimal

/-!
# Writing JSON

Two layouts: compact, without any space, and indented by two spaces, with a space behind the colon
and nothing between the brackets of an empty list or object. A text is written between double
quotes; a quote, a backslash and the control characters below the space are escaped, all other
characters stand for themselves.
-/

namespace VisualQuery.Json

/-- A character as it stands in a written text. -/
def escapedChar (c : Char) : List Char :=
  if c = '"' then ['\\', '"']
  else if c = '\\' then ['\\', '\\']
  else if c = '\x08' then ['\\', 'b']
  else if c = '\t' then ['\\', 't']
  else if c = '\n' then ['\\', 'n']
  else if c = '\x0c' then ['\\', 'f']
  else if c = '\r' then ['\\', 'r']
  else if c.toNat < 0x20 then '\\' :: 'u' :: Text.hexDigits 4 c.toNat
  else [c]

/-- A text between quotes. -/
def textBetweenQuotes (s : String) : List Char :=
  '"' :: s.toList.flatMap escapedChar ++ ['"']

/-- The words for the two truth values. -/
def boolText (b : Bool) : List Char :=
  if b then ['t', 'r', 'u', 'e'] else ['f', 'a', 'l', 's', 'e']

/-! ### Compact layout -/

mutual

/-- A value without any space. -/
def compactChars : Json → List Char
  | .null => ['n', 'u', 'l', 'l']
  | .bool b => boolText b
  | .number n => n.text
  | .text s => textBetweenQuotes s
  | .array elements => '[' :: compactElements true elements ++ [']']
  | .object members => '\x7b' :: compactMembers true members ++ ['\x7d']

/-- Values, each but the first behind a comma. -/
def compactElements (first : Bool) : List Json → List Char
  | [] => []
  | v :: rest => (if first then [] else [',']) ++ compactChars v ++ compactElements false rest

/-- Members, each but the first behind a comma. -/
def compactMembers (first : Bool) : List (String × Json) → List Char
  | [] => []
  | (name, v) :: rest =>
    (if first then [] else [',']) ++ textBetweenQuotes name ++ ':' :: compactChars v ++
      compactMembers false rest

end

/-- A value on one line, without any space. -/
def compact (v : Json) : String := String.ofList v.compactChars

/-! ### Indented layout -/

/-- A line break and the indentation of a level. -/
def newLine (level : Nat) : List Char := '\n' :: List.replicate (2 * level) ' '

mutual

/-- A value whose inner lines are indented from `level` on. -/
def indentedChars (level : Nat) : Json → List Char
  | .null => ['n', 'u', 'l', 'l']
  | .bool b => boolText b
  | .number n => n.text
  | .text s => textBetweenQuotes s
  | .array [] => ['[', ']']
  | .array (v :: rest) =>
    '[' :: indentedElements (level + 1) true (v :: rest) ++ newLine level ++ [']']
  | .object [] => ['\x7b', '\x7d']
  | .object (m :: rest) =>
    '\x7b' :: indentedMembers (level + 1) true (m :: rest) ++ newLine level ++ ['\x7d']

/-- Values, each on a line of its own. -/
def indentedElements (level : Nat) (first : Bool) : List Json → List Char
  | [] => []
  | v :: rest =>
    (if first then [] else [',']) ++ newLine level ++ indentedChars level v ++
      indentedElements level false rest

/-- Members, each on a line of its own. -/
def indentedMembers (level : Nat) (first : Bool) : List (String × Json) → List Char
  | [] => []
  | (name, v) :: rest =>
    (if first then [] else [',']) ++ newLine level ++ textBetweenQuotes name ++ ':' :: ' ' ::
      indentedChars level v ++ indentedMembers level false rest

end

/-- A value on several lines, indented by two spaces a level. -/
def indented (v : Json) : String := String.ofList (v.indentedChars 0)

end VisualQuery.Json
