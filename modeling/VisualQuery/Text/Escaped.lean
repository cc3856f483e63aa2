import VisualQuery.Text.Printable

/-!
# Texts in diagnostic output

A text is shown between double quotes, with a backslash before a quote or a backslash, the usual
letters for the tab and the line ends, and the code point of every character that cannot be shown
as itself.
-/

namespace VisualQuery.Text

/-- A character as it stands between the quotes. -/
def escapeChar (c : Char) : List Char :=
  match c with
  | '\x00' => ['\\', '0']
  | '\t' => ['\\', 't']
  | '\r' => ['\\', 'r']
  | '\n' => ['\\', 'n']
  | '\\' => ['\\', '\\']
  | '"' => ['\\', '"']
  | c =>
    if isPrintable c then [c]
    else ['\\', 'u', '\x7b'] ++ Nat.toDigits 16 c.toNat ++ ['\x7d']

/-- The text between quotes, on one line of visible characters. -/
def quoted (s : String) : String :=
  String.ofList ('"' :: s.toList.flatMap escapeChar ++ ['"'])

end VisualQuery.Text
