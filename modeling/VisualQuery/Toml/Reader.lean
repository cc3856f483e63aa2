import VisualQuery.Toml.Quoted
import VisualQuery.Toml.Scalar
import VisualQuery.Toml.Table

/-!
# Reading TOML

A document is read line by line into its root table. A line opens a table, opens another table of an
array of tables, or adds a value under a key; blanks and a comment may stand around it. Arrays and
inline tables may go over several lines, may have a comma behind their last part, and nest at most
eighty levels deep; a dotted key has at most eighty parts. There is one fault for every text that is
no document.
-/

namespace VisualQuery.Toml

/-- A reader takes a value off the front of a text and leaves the rest. -/
abbrev Reader (α : Type) := StateT (List Char) Option α

/-- How deep arrays and inline tables may nest. -/
def maxDepth : Nat := 80

/-- How many parts a dotted key may have. -/
def maxKeyParts : Nat := 80

namespace Reader

open Quoted (isBlank isPlain)

/-- Takes blanks off the front of the text. -/
def blanks : Reader Unit := modify (·.dropWhile isBlank)

/-- Takes a character off the front of the text if it is the given one. -/
def took (c : Char) : Reader Bool := do
  match ← get with
  | d :: rest => if d = c then set rest; return true else return false
  | [] => return false

/-- Takes the given character off the front of the text. -/
def expect (c : Char) : Reader Unit := do
  if !(← took c) then failure

/-- Takes blanks, line breaks and comments off the front of a text; the text may start inside a
comment. -/
def dropGap : (inComment : Bool) → (cs : List Char) → Option (List Char)
  | _, [] => some []
  | _, '\n' :: cs => dropGap false cs
  | _, '\r' :: '\n' :: cs => dropGap false cs
  | true, c :: cs => if isPlain c then dropGap true cs else none
  | false, '#' :: cs => dropGap true cs
  | false, c :: cs => if isBlank c then dropGap false cs else some (c :: cs)

/-- Takes blanks, line breaks and comments off the front of the text. -/
def gap : Reader Unit := do
  match dropGap false (← get) with
  | some rest => set rest
  | none => failure

/-- Takes the rest of a line off the front of the text, which holds nothing but a comment. -/
def endLine : Reader Unit := do
  blanks
  if ← took '#' then modify (·.dropWhile isPlain)
  match ← get with
  | [] => return
  | cs =>
    match Quoted.dropBreak? cs with
    | some rest => set rest
    | none => failure

/-- Takes a text off the front of the text, behind its opening quotes. -/
def quoted (body : List Char → Option (List Char × List Char)) (cs : List Char) :
    Reader String := do
  match body cs with
  | some (s, rest) => set rest; return String.ofList s
  | none => failure

/-! ### Keys -/

/-- Whether a character may stand in a key without quotes. -/
def isBareKeyChar (c : Char) : Bool :=
  ('a' ≤ c && c ≤ 'z') || ('A' ≤ c && c ≤ 'Z') || Decimal.isDigit c || c == '_' || c == '-'

/-- A key without dots. -/
def key : Reader String := do
  match ← get with
  | '"' :: cs => quoted Quoted.double cs
  | '\'' :: cs => quoted Quoted.single cs
  | cs =>
    let name := cs.takeWhile isBareKeyChar
    if name.isEmpty then failure
    set (cs.dropWhile isBareKeyChar)
    return String.ofList name

/-- The keys of a dotted key, at most `count` of them: those on the way, and the last one. -/
def dottedUpTo : (count : Nat) → Reader (List String × String)
  | 0 => failure
  | count + 1 => do
    let k ← key
    blanks
    if ← took '.' then
      blanks
      let (keys, last) ← dottedUpTo count
      return (k :: keys, last)
    else return ([], k)

/-- The keys of a dotted key: those on the way, and the last one. -/
def dotted : Reader (List String × String) := dottedUpTo maxKeyParts

/-! ### Values -/

/-- Whether a character ends a value without quotes. A quote does not. -/
def endsWord (c : Char) : Bool :=
  isBlank c || c ∈ ['\n', '\r', ',', '[', ']', '\x7b', '\x7d', '#', '=']

/-- A value without quotes. A date and a time may stand with a space between them. -/
def word : Reader Toml := do
  let cs ← get
  let first := cs.takeWhile (!endsWord ·)
  let rest := cs.dropWhile (!endsWord ·)
  let (word, rest) :=
    match rest with
    -- a time may follow a date, but not any other word
    | ' ' :: c :: more =>
      if Decimal.isDigit c && Moment.isDate first then
        (first ++ ' ' :: (c :: more).takeWhile (!endsWord ·), (c :: more).dropWhile (!endsWord ·))
      else (first, rest)
    | rest => (first, rest)
  match Scalar.value? word with
  | some v => set rest; return v
  | none => failure

/-- The elements of an array and its bracket, in at most `fuel` rounds. -/
def elementsIn (value : Reader Toml) : (fuel : Nat) → Reader (List Toml)
  | 0 => failure
  | fuel + 1 => do
    gap
    -- the bracket may stand behind a comma as well
    if ← took ']' then return []
    let v ← value
    gap
    if ← took ',' then return v :: (← elementsIn value fuel)
    expect ']'
    return [v]

/-- A key and its value, with `space` on both sides of the equals sign. -/
def keyed (space : Reader Unit) (value : Reader Toml) :
    Reader ((List String × String) × Toml) := do
  let k ← dotted
  space
  expect '='
  space
  return (k, ← value)

/-- Adds the members of an inline table, up to its brace, in at most `fuel` rounds. -/
def membersIn (value : Reader Toml) : (fuel : Nat) → Members → Reader Members
  | 0, _ => failure
  | fuel + 1, ms => do
    gap
    -- the brace may stand behind a comma as well
    if ← took '\x7d' then return ms
    let ((keys, last), v) ← keyed gap value
    let ms ← Members.add keys last v .inline ms
    gap
    if ← took ',' then membersIn value fuel ms
    else
      expect '\x7d'
      return ms

/-- A value. The values inside an array or an inline table are read by `inner`, which is missing
where no further level is allowed. -/
def valueWith (inner : Option (Reader Toml)) : Reader Toml := do
  match ← get with
  | '"' :: '"' :: '"' :: cs => return .text (← quoted Quoted.longDouble cs)
  | '"' :: cs => return .text (← quoted Quoted.double cs)
  | '\'' :: '\'' :: '\'' :: cs => return .text (← quoted Quoted.longSingle cs)
  | '\'' :: cs => return .text (← quoted Quoted.single cs)
  | '[' :: cs =>
    match inner with
    | none => failure
    | some inner =>
      set cs
      return .list (← elementsIn inner (cs.length + 1))
  | '\x7b' :: cs =>
    match inner with
    | none => failure
    | some inner =>
      set cs
      return .table .inline (← membersIn inner (cs.length + 1) [])
  | _ => word

/-- A value that nests at most `depth` levels deep. -/
def value : (depth : Nat) → Reader Toml
  | 0 => valueWith none
  | depth + 1 => valueWith (some (value depth))

/-! ### Lines -/

/-- A document under construction. -/
structure Draft where
  /-- The root table. -/
  root : Members
  /-- The path of the table that was opened last. -/
  opened : List String

/-- Reads what stands in a line, if anything does. -/
def line (d : Draft) : Reader Draft := do
  blanks
  match ← get with
  -- an empty line, or one with nothing but a comment
  | [] => return d
  | '#' :: _ => return d
  | '\n' :: _ => return d
  | '\r' :: _ => return d
  -- the header of a row; no blank stands between its brackets
  | '[' :: '[' :: cs =>
    set cs
    blanks
    let (keys, last) ← dotted
    expect ']'
    expect ']'
    return ⟨← Members.openRow keys last d.root, keys ++ [last]⟩
  -- the header of a table
  | '[' :: cs =>
    set cs
    blanks
    let (keys, last) ← dotted
    expect ']'
    return ⟨← Members.openTable keys last d.root, keys ++ [last]⟩
  | _ =>
    let ((keys, last), v) ← keyed blanks (value maxDepth)
    return { d with root := ← Members.addUnder d.opened keys last v d.root }

/-- Reads the lines of a document, at most `fuel` of them. -/
def linesIn : (fuel : Nat) → Draft → Reader Draft
  | 0, _ => failure
  | fuel + 1, d => do
    if (← get).isEmpty then return d
    let d ← line d
    endLine
    linesIn fuel d

end Reader

/-- A text without the byte order mark it may start with. -/
def dropMark : (cs : List Char) → List Char
  | '\ufeff' :: cs => cs
  | cs => cs

/-- The root table of a document. Each line but the last one takes its line break, so there are not
more lines than characters. -/
def ofText? (s : String) : Option Members :=
  let cs := dropMark s.toList
  ((Reader.linesIn (cs.length + 1) ⟨[], []⟩).run cs).map (·.1.root)

end VisualQuery.Toml
