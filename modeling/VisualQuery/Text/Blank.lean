/-!
# Blank characters and trimming

A character is blank when it has the Unicode property `White_Space`. Trimming removes blanks at the
ends of a text; a text of blanks only counts as no text at all where a text is optional
(`nonBlank`). The zero-width space U+200B and the byte order mark are not blank.
-/

namespace VisualQuery.Text

/-- Whether a character has the property `White_Space`. -/
def isBlank (c : Char) : Bool :=
  (0x09 ≤ c.toNat && c.toNat ≤ 0x0d) || c.toNat == 0x20 || c.toNat == 0x85 || c.toNat == 0xa0 ||
  c.toNat == 0x1680 || (0x2000 ≤ c.toNat && c.toNat ≤ 0x200a) || c.toNat == 0x2028 ||
  c.toNat == 0x2029 || c.toNat == 0x202f || c.toNat == 0x205f || c.toNat == 0x3000

/-- The text without the blanks it starts with. -/
def trimStart (s : String) : String :=
  String.ofList (s.toList.dropWhile isBlank)

/-- The text without the blanks at its two ends. -/
def trim (s : String) : String :=
  String.ofList ((s.toList.dropWhile isBlank).reverse.dropWhile isBlank).reverse

/-- Whether a text holds nothing but blanks. -/
def isBlankText (s : String) : Bool := s.toList.all isBlank

/-- An optional text, where blanks alone stand for no text. -/
def nonBlank (text : Option String) : Option String :=
  text.filter fun s => !isBlankText s

/-- An optional text, where the empty text stands for no text. -/
def nonEmpty (text : Option String) : Option String :=
  text.filter fun s => !s.isEmpty

end VisualQuery.Text
