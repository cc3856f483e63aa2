import VisualQuery.Json.Printer

/-!
# Reading JSON

A reader takes a value off the front of a text. It reads from left to right and fails at the first
fault, which is of one of three kinds: the text is no JSON (`malformed`), it ends too early
(`truncated`), or it is JSON of another shape than the one asked for (`mismatched`).

A value that is kept may nest 127 levels deep, counted from the start of the text (`maxDepth`). A
value that is skipped is only scanned: it may nest to any depth, its numbers may have any size and
its escapes may name half of a surrogate pair.
-/

namespace VisualQuery.Json

/-- Why a text is not read. -/
inductive Fault where
  /-- The text is no JSON. -/
  | malformed
  /-- The text ends too early. -/
  | truncated
  /-- The text holds JSON of another shape than the one asked for. -/
  | mismatched
deriving DecidableEq, Repr

/-- What is wrong with a text. -/
def Fault.message : Fault → String
  | .malformed => "the text is no JSON"
  | .truncated => "the text ends too early"
  | .mismatched => "a value is of another shape than expected"

/-- A reader takes a value off the front of a text and leaves the rest. -/
abbrev Reader (α : Type) := StateT (List Char) (Except Fault) α

/-- How deep a value that is kept may nest. -/
def maxDepth : Nat := 127

namespace Reader

/-- Whether a character may stand between two parts of a text. -/
def isSpace (c : Char) : Bool := c == ' ' || c == '\n' || c == '\t' || c == '\r'

/-- The next character that is no space, which stays in the text. -/
def peek : Reader (Option Char) := do
  modify (·.dropWhile isSpace)
  return (← get).head?

/-- Takes one character off the text. -/
def advance : Reader Unit := modify (·.drop 1)

/-- Takes the characters of a word off the text. -/
def expectWord : (word : List Char) → Reader Unit
  | [] => return
  | w :: word => do
    match ← get with
    | [] => throw .truncated
    | c :: rest =>
      set rest
      if c = w then expectWord word else throw .malformed

/-! ### Texts -/

/-- The four hexadecimal digits of an escape. Fewer than four bytes before the end of the text are
a text that ends too early, whatever they are. -/
def hexEscape (cs : List Char) : Except Fault (Nat × List Char) :=
  match cs with
  | a :: b :: c :: d :: rest =>
    match Text.ofHexDigits? [a, b, c, d] with
    | some n => .ok (n, rest)
    | none => .error .malformed
  | cs => if (String.ofList cs).utf8ByteSize < 4 then .error .truncated else .error .malformed

/-- The characters that a backslash and one letter stand for. -/
def simpleEscape? (c : Char) : Option Char :=
  if c = '"' then some '"'
  else if c = '\\' then some '\\'
  else if c = '/' then some '/'
  else if c = 'b' then some '\x08'
  else if c = 'f' then some '\x0c'
  else if c = 'n' then some '\n'
  else if c = 'r' then some '\r'
  else if c = 't' then some '\t'
  else none

/-- The second half of a surrogate pair, behind the first half `high`. -/
def lowSurrogate (high : Nat) : (cs : List Char) → Except Fault (Char × List Char)
  | [] => .error .truncated
  | '\\' :: [] => .error .truncated
  | '\\' :: 'u' :: rest => do
    let (low, rest) ← hexEscape rest
    if 0xdc00 ≤ low ∧ low ≤ 0xdfff then
      return (Char.ofNat ((high - 0xd800) * 0x400 + (low - 0xdc00) + 0x10000), rest)
    else throw .malformed
  | _ => .error .malformed

/-- The character an escape stands for, behind its backslash. -/
def escape : (cs : List Char) → Except Fault (Char × List Char)
  | [] => .error .truncated
  | 'u' :: rest => do
    let (code, rest) ← hexEscape rest
    -- the second half of a pair does not stand alone
    if 0xdc00 ≤ code ∧ code ≤ 0xdfff then throw .malformed
    else if 0xd800 ≤ code ∧ code ≤ 0xdbff then lowSurrogate code rest
    else return (Char.ofNat code, rest)
  | c :: rest =>
    match simpleEscape? c with
    | some image => .ok (image, rest)
    | none => .error .malformed

/-- The rest of a text behind its opening quote, in at most `fuel` steps. -/
def textBodyIn : (fuel : Nat) → (cs : List Char) → Except Fault (List Char × List Char)
  | 0, _ => .error .truncated
  | _ + 1, [] => .error .truncated
  | fuel + 1, c :: cs =>
    if c = '"' then .ok ([], cs)
    else if c = '\\' then do
      let (image, cs) ← escape cs
      let (body, rest) ← textBodyIn fuel cs
      return (image :: body, rest)
    else if c.toNat < 0x20 then .error .malformed
    else do
      let (body, rest) ← textBodyIn fuel cs
      return (c :: body, rest)

/-- The rest of a text behind its opening quote. Each step takes a character, so the steps do not
run out before the text does. -/
def textBody : Reader String := fun cs => do
  let (body, rest) ← textBodyIn (cs.length + 1) cs
  return (String.ofList body, rest)

/-! ### Numbers -/

/-- Takes the digits off the front of the text. -/
def takeDigits : Reader (List Char) := fun cs =>
  .ok (cs.takeWhile Decimal.isDigit, cs.dropWhile Decimal.isDigit)

/-- The digits before the point: one zero, or digits that start with another one. -/
def integerDigits : Reader (List Char) := do
  match ← get with
  | [] => throw .truncated
  | c :: _ =>
    if Decimal.isDigit c then
      let ds ← takeDigits
      -- no digit follows a leading zero
      if c = '0' ∧ ds.length ≠ 1 then throw .malformed else return ds
    else throw .malformed

/-- At least one digit. -/
def someDigits : Reader (List Char) := do
  match ← get with
  | [] => throw .truncated
  | c :: _ => if Decimal.isDigit c then takeDigits else throw .malformed

/-- The sign and the digits of an exponent, behind its letter. -/
def exponentDigits : Reader (Bool × List Char) := do
  match ← get with
  | '+' :: rest => set rest; return (false, ← someDigits)
  | '-' :: rest => set rest; return (true, ← someDigits)
  | _ => return (false, ← someDigits)

/-- An exponent, if one follows. -/
def exponentPart? : Reader (Option (Bool × List Char)) := do
  match ← get with
  | c :: rest =>
    if c = 'e' ∨ c = 'E' then set rest; return some (← exponentDigits) else return none
  | [] => return none

/-- The digits behind a point, if one follows. -/
def fractionPart : Reader (List Char) := do
  match ← get with
  | '.' :: rest => set rest; someDigits
  | _ => return []

/-- A number without its sign. -/
def unsignedNumber (negative : Bool) : Reader Number := do
  let integer ← integerDigits
  let fraction ← fractionPart
  let exponent ← exponentPart?
  match (Number.Parts.mk negative integer fraction exponent).value? with
  | some n => return n
  | none => throw .malformed

/-- A number, at its sign or its first digit. -/
def number : Reader Number := do
  match ← get with
  | '-' :: rest => set rest; unsignedNumber true
  | _ => unsignedNumber false

/-! ### Values of another shape -/

/-- Reports that the value in front is not of the shape asked for. A word, a number or a text is
read first, and its own faults come before the report; a list or an object is not. -/
def mismatch {α : Type} : Reader α := do
  match ← peek with
  | none => throw .truncated
  | some c =>
    if c = 'n' then advance; expectWord ['u', 'l', 'l']; throw .mismatched
    else if c = 't' then advance; expectWord ['r', 'u', 'e']; throw .mismatched
    else if c = 'f' then advance; expectWord ['a', 'l', 's', 'e']; throw .mismatched
    else if c = '-' ∨ Decimal.isDigit c = true then let _ ← number; throw .mismatched
    else if c = '"' then advance; let _ ← textBody; throw .mismatched
    else if c = '[' ∨ c = '\x7b' then throw .mismatched
    else throw .malformed

/-! ### Lists and objects

The loops over elements and members take a reader for one of them. Each round takes at least one
character, so the length of the text bounds the number of rounds. -/

/-- Whether another element follows; a comma comes before each but the first. -/
def nextElement (first : Bool) : Reader Bool := do
  match ← peek with
  | none => throw .truncated
  | some c =>
    if c = ']' then return false
    else if first then return true
    else if c = ',' then
      advance
      -- no bracket stands behind a comma
      match ← peek with
      | none => throw .truncated
      | some c => if c = ']' then throw .malformed else return true
    else throw .malformed

/-- The elements of a list up to its bracket, in at most `fuel` rounds. -/
def elementsIn {α : Type} (element : Reader α) : (fuel : Nat) → (first : Bool) → Reader (List α)
  | 0, _ => throw .truncated
  | fuel + 1, first => do
    if ← nextElement first then
      let v ← element
      return v :: (← elementsIn element fuel false)
    else return []

/-- The end of a list. -/
def endList : Reader Unit := do
  match ← peek with
  | none => throw .truncated
  | some c => if c = ']' then advance else throw .malformed

/-- The elements of a list and its end, behind the opening bracket. -/
def elements {α : Type} (element : Reader α) : Reader (List α) := do
  let vs ← elementsIn element ((← get).length + 1) true
  endList
  return vs

/-- Whether another member follows, whose opening quote is in front. -/
def nextMember (first : Bool) : Reader Bool := do
  match ← peek with
  | none => throw .truncated
  | some c =>
    if c = '\x7d' then return false
    else if first then if c = '"' then return true else throw .malformed
    else if c = ',' then
      advance
      match ← peek with
      | none => throw .truncated
      | some c => if c = '"' then return true else throw .malformed
    else throw .malformed

/-- The colon behind a name. -/
def colon : Reader Unit := do
  match ← peek with
  | none => throw .truncated
  | some c => if c = ':' then advance else throw .malformed

/-- Goes through the members of an object up to its brace, in at most `fuel` rounds: `step` reads
what follows a name, the colon included. -/
def foldMembersIn {σ : Type} (step : String → σ → Reader σ) :
    (fuel : Nat) → (first : Bool) → σ → Reader σ
  | 0, _, _ => throw .truncated
  | fuel + 1, first, acc => do
    if ← nextMember first then
      advance
      let name ← textBody
      foldMembersIn step fuel false (← step name acc)
    else return acc

/-- Goes through the members of an object, behind the opening brace. -/
def foldMembers {σ : Type} (step : String → σ → Reader σ) (init : σ) : Reader σ := do
  foldMembersIn step ((← get).length + 1) true init

/-- The end of an object. -/
def endObject : Reader Unit := do
  match ← peek with
  | none => throw .truncated
  | some c => if c = '\x7d' then advance else throw .malformed

/-! ### Whole values -/

/-- A value that is kept. The values inside a list or an object are read by `inner`, which is
missing where no further level is allowed. -/
def valueWith (inner : Option (Reader Json)) : Reader Json := do
  match ← peek with
  | none => throw .truncated
  | some c =>
    if c = 'n' then advance; expectWord ['u', 'l', 'l']; return .null
    else if c = 't' then advance; expectWord ['r', 'u', 'e']; return .bool true
    else if c = 'f' then advance; expectWord ['a', 'l', 's', 'e']; return .bool false
    else if c = '-' ∨ Decimal.isDigit c = true then return .number (← number)
    else if c = '"' then advance; return .text (← textBody)
    else if c = '[' then
      match inner with
      | none => throw .malformed
      | some inner => advance; return .array (← elements inner)
    else if c = '\x7b' then
      match inner with
      | none => throw .malformed
      | some inner => advance; return .object (← members inner)
    else throw .malformed
where
  /-- The members of an object and its end. -/
  members (inner : Reader Json) : Reader (List (String × Json)) := do
    let ms ← foldMembers (fun name ms => do colon; return (name, ← inner) :: ms) []
    endObject
    return ms.reverse

/-- A value that is kept, nested at most `depth` levels deep. -/
def value : (depth : Nat) → Reader Json
  | 0 => valueWith none
  | depth + 1 => valueWith (some (value depth))

/-! ### Skipped values -/

/-- Skips the rest of a text behind its opening quote. -/
def skipTextIn : (fuel : Nat) → (cs : List Char) → Except Fault (List Char)
  | 0, _ => .error .truncated
  | _ + 1, [] => .error .truncated
  | fuel + 1, c :: cs =>
    if c = '"' then .ok cs
    else if c = '\\' then
      match cs with
      | [] => .error .truncated
      -- half of a surrogate pair is as good as a character
      | 'u' :: cs => do
        let (_, cs) ← hexEscape cs
        skipTextIn fuel cs
      | c :: cs => if (simpleEscape? c).isSome then skipTextIn fuel cs else .error .malformed
    else if c.toNat < 0x20 then .error .malformed
    else skipTextIn fuel cs

/-- Skips the rest of a text behind its opening quote. -/
def skipText : Reader Unit := fun cs => do
  let rest ← skipTextIn (cs.length + 1) cs
  return ((), rest)

/-- Takes at least one digit; the end of the text is as good as another character here. -/
def skipDigits : Reader (List Char) := do
  match ← get with
  | [] => throw .malformed
  | c :: _ => if Decimal.isDigit c then takeDigits else throw .malformed

/-- Skips a number of any size. -/
def skipNumber : Reader Unit := do
  if (← get).head? = some '-' then advance
  let ds ← skipDigits
  if ds.head? = some '0' ∧ ds.length ≠ 1 then throw .malformed
  if (← get).head? = some '.' then
    advance
    let _ ← skipDigits
  if (← get).head? = some 'e' ∨ (← get).head? = some 'E' then
    advance
    if (← get).head? = some '+' ∨ (← get).head? = some '-' then advance
    let _ ← skipDigits

/-- Skips members in at most `fuel` rounds; their names are only scanned as well. -/
def skipMembersIn (inner : Reader Unit) : (fuel : Nat) → (first : Bool) → Reader Unit
  | 0, _ => throw .truncated
  | fuel + 1, first => do
    if ← nextMember first then
      advance
      skipText
      colon
      inner
      skipMembersIn inner fuel false

/-- Skips the members of an object and its end, behind the opening brace. -/
def skipMembers (inner : Reader Unit) : Reader Unit := do
  skipMembersIn inner ((← get).length + 1) true
  endObject

/-- Skips a value. The values inside a list or an object are skipped by `inner`. -/
def skipWith (inner : Reader Unit) : Reader Unit := do
  match ← peek with
  | none => throw .truncated
  | some c =>
    if c = 'n' then advance; expectWord ['u', 'l', 'l']
    else if c = 't' then advance; expectWord ['r', 'u', 'e']
    else if c = 'f' then advance; expectWord ['a', 'l', 's', 'e']
    else if c = '-' ∨ Decimal.isDigit c = true then skipNumber
    else if c = '"' then advance; skipText
    else if c = '[' then advance; let _ ← elements inner
    else if c = '\x7b' then advance; skipMembers inner
    else throw .malformed

/-- Skips a value that is nested at most `fuel` levels deep. -/
def skipIn : (fuel : Nat) → Reader Unit
  | 0 => throw .truncated
  | fuel + 1 => skipWith (skipIn fuel)

/-- Skips a value. A level takes a character, so the length of the text bounds the depth. -/
def skip : Reader Unit := do skipIn ((← get).length + 1)

end Reader

/-! ### Texts of one value -/

/-- Reads a text that holds one value and nothing behind it but spaces. -/
def readWhole {α : Type} (reader : Reader α) (s : String) : Except Fault α := do
  let (v, rest) ← reader.run s.toList
  if (rest.dropWhile Reader.isSpace).isEmpty then return v else throw .malformed

/-- Reads a text as a free-form value. -/
def ofString (s : String) : Except Fault Json := readWhole (Reader.value maxDepth) s

end VisualQuery.Json
