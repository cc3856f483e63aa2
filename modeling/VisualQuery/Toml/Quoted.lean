import VisualQuery.Text.Hexadecimal

/-!
# Texts between quotes

There are two kinds of quotes. Between double quotes a backslash starts an escape; between single
quotes every character stands for itself. A text between three quotes may have several lines: a
line break behind the opening quotes is left out, and so is, between double quotes, a line break
behind a backslash together with all blanks and line breaks around it. Up to two quotes in front of
the closing ones belong to the text.

Control characters other than the tab must be escaped. A line ends with a line feed, or with a
carriage return and a line feed.
-/

namespace VisualQuery.Toml.Quoted

/-- Whether a character may stand for itself in one line. -/
def isPlain (c : Char) : Bool := c == '\t' || (0x20 ≤ c.toNat && c.toNat != 0x7f)

/-- Whether a character is a blank within a line. -/
def isBlank (c : Char) : Bool := c == ' ' || c == '\t'

/-- Takes a line break off the front of a text. -/
def dropBreak? : (cs : List Char) → Option (List Char)
  | '\n' :: cs => some cs
  | '\r' :: '\n' :: cs => some cs
  | _ => none

/-- Takes blanks and line breaks off the front of a text. -/
def dropSpace : (cs : List Char) → List Char
  | '\n' :: cs => dropSpace cs
  | '\r' :: '\n' :: cs => dropSpace cs
  | c :: cs => if isBlank c then dropSpace cs else c :: cs
  | [] => []

/-! ### Escapes -/

/-- A character by its code point, in so many hexadecimal digits. -/
def codePoint? (count : Nat) (cs : List Char) : Option (Char × List Char) := do
  let ds := cs.take count
  let n ← Text.ofHexDigits? ds
  if ds.length = count ∧ n.isValidChar then return (Char.ofNat n, cs.drop count) else failure

/-- The character an escape stands for, behind its backslash. -/
def escape? : (cs : List Char) → Option (Char × List Char)
  | [] => none
  | c :: cs =>
    if c = '"' then some ('"', cs)
    else if c = '\\' then some ('\\', cs)
    else if c = 'b' then some ('\x08', cs)
    else if c = 't' then some ('\t', cs)
    else if c = 'n' then some ('\n', cs)
    else if c = 'f' then some ('\x0c', cs)
    else if c = 'r' then some ('\r', cs)
    else if c = 'e' then some ('\x1b', cs)
    else if c = 'x' then codePoint? 2 cs
    else if c = 'u' then codePoint? 4 cs
    else if c = 'U' then codePoint? 8 cs
    else none

/-- Takes a line break behind a backslash off the front of a text, with the blanks before it and
the blanks and line breaks behind it. -/
def dropContinuation? (cs : List Char) : Option (List Char) :=
  (dropBreak? (cs.dropWhile isBlank)).map dropSpace

/-! ### One line

The functions return the text and what follows the closing quote. -/

/-- The rest of a text between double quotes, in at most `fuel` steps. -/
def doubleIn : (fuel : Nat) → (cs : List Char) → Option (List Char × List Char)
  | 0, _ => none
  | _ + 1, [] => none
  | fuel + 1, c :: cs =>
    if c = '"' then some ([], cs)
    else if c = '\\' then do
      let (image, cs) ← escape? cs
      let (body, rest) ← doubleIn fuel cs
      return (image :: body, rest)
    else if isPlain c then do
      let (body, rest) ← doubleIn fuel cs
      return (c :: body, rest)
    else none

/-- The rest of a text between double quotes. -/
def double (cs : List Char) : Option (List Char × List Char) := doubleIn (cs.length + 1) cs

/-- The rest of a text between single quotes. -/
def single : (cs : List Char) → Option (List Char × List Char)
  | [] => none
  | c :: cs =>
    if c = '\'' then some ([], cs)
    else if isPlain c then do
      let (body, rest) ← single cs
      return (c :: body, rest)
    else none

/-! ### Several lines -/

/-- What follows three quotes that close a text: up to two more quotes, which belong to the text,
and the rest. -/
def closing (quote : Char) (cs : List Char) : List Char × List Char :=
  let extra := (cs.takeWhile (· = quote)).take 2
  (extra, cs.drop extra.length)

/-- A text without the line break it starts with. -/
def dropFirstBreak (cs : List Char) : List Char := (dropBreak? cs).getD cs

/-- The rest of a text between three double quotes, in at most `fuel` steps. -/
def longDoubleIn : (fuel : Nat) → (cs : List Char) → Option (List Char × List Char)
  | 0, _ => none
  | _ + 1, [] => none
  | _ + 1, '"' :: '"' :: '"' :: cs => some (closing '"' cs)
  | fuel + 1, '\r' :: '\n' :: cs => do
    let (body, rest) ← longDoubleIn fuel cs
    return ('\r' :: '\n' :: body, rest)
  | fuel + 1, '\\' :: cs =>
    -- a backslash at the end of a line joins it to the next one
    match dropContinuation? cs with
    | some cs => longDoubleIn fuel cs
    | none => do
      let (image, cs) ← escape? cs
      let (body, rest) ← longDoubleIn fuel cs
      return (image :: body, rest)
  | fuel + 1, c :: cs =>
    if c = '\n' ∨ isPlain c then do
      let (body, rest) ← longDoubleIn fuel cs
      return (c :: body, rest)
    else none

/-- The rest of a text between three double quotes. -/
def longDouble (cs : List Char) : Option (List Char × List Char) :=
  longDoubleIn (cs.length + 1) (dropFirstBreak cs)

/-- The rest of a text between three single quotes, behind its first line break. -/
def longSingleLines : (cs : List Char) → Option (List Char × List Char)
  | [] => none
  | '\'' :: '\'' :: '\'' :: cs => some (closing '\'' cs)
  | '\r' :: '\n' :: cs => do
    let (body, rest) ← longSingleLines cs
    return ('\r' :: '\n' :: body, rest)
  | c :: cs =>
    if c = '\n' ∨ isPlain c then do
      let (body, rest) ← longSingleLines cs
      return (c :: body, rest)
    else none

/-- The rest of a text between three single quotes. -/
def longSingle (cs : List Char) : Option (List Char × List Char) :=
  longSingleLines (dropFirstBreak cs)

end VisualQuery.Toml.Quoted
