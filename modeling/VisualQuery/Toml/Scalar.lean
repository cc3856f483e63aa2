import VisualQuery.Text.Hexadecimal
import VisualQuery.Toml.Moment
import VisualQuery.Toml.Value

/-!
# Values without quotes

The words for truth values, the numbers, and the dates and times. A whole number may be written with
base 16, 8 or 2 and then has no sign; otherwise it starts with a zero only if it is zero.

Single underscores may stand between the digits of a number. A text may pass for a whole number
without being one: the digits of another base than ten may be missing, and behind its first
underscore a decimal number is only looked at next to underscores, where any hexadecimal digit will
do. Such a text is the value `unreadable`.
-/

namespace VisualQuery.Toml.Scalar

/-! ### Signs -/

/-- The sign of a number. -/
inductive Sign where
  /-- The sign `+`. -/
  | plus
  /-- The sign `-`. -/
  | minus
deriving DecidableEq, Repr

/-- Takes a sign off the front of a text, if there is one. -/
def sign : (cs : List Char) → Option Sign × List Char
  | '+' :: cs => (some .plus, cs)
  | '-' :: cs => (some .minus, cs)
  | cs => (none, cs)

/-- A number behind a sign. -/
def signed (s : Option Sign) (n : Nat) : Int := if s = some .minus then -(n : Int) else n

/-! ### Groups of digits -/

/-- Whether every underscore stands between two digits; `digit` tells whether a digit comes before
the text. -/
def groupedBehind (isDigit : Char → Bool) : (digit : Bool) → (cs : List Char) → Bool
  | _, [] => true
  | digit, c :: cs =>
    if c = '_' then digit && cs.head?.any isDigit && groupedBehind isDigit false cs
    else groupedBehind isDigit (isDigit c) cs

/-- Whether every underscore of a text stands between two digits. -/
def grouped (isDigit : Char → Bool) (cs : List Char) : Bool := groupedBehind isDigit false cs

/-- A text without its underscores. -/
def ungrouped (cs : List Char) : List Char := cs.filter (· != '_')

/-- Whether a text starts with a zero and goes on. -/
def padded (cs : List Char) : Bool := cs.head? == some '0' && cs.length != 1

/-! ### Whole numbers -/

/-- Whether a character is a digit of a base up to sixteen. -/
def isDigitOf (base : Nat) (c : Char) : Bool := (Text.hexValue? c).any (· < base)

/-- The number that digits of a base stand for. -/
def ofBase (base : Nat) (ds : List Char) : Nat :=
  ds.foldl (fun n c => base * n + (Text.hexValue? c).getD 0) 0

/-- The whole number in a text of groups. It stands for a number if there are digits and all are
digits of the base. -/
def whole (base : Nat) (s : Option Sign) (cs : List Char) : Toml :=
  let ds := ungrouped cs
  if !ds.isEmpty && ds.all (isDigitOf base) then .integer (signed s (ofBase base ds))
  else .unreadable

/-- A whole number of another base than ten, behind the letter of the base. -/
def based? (base : Nat) (cs : List Char) : Option Toml :=
  if (ungrouped cs).all (isDigitOf base) && grouped (isDigitOf base) cs then
    some (whole base none cs)
  else none

/-- A whole number of base ten, behind its sign. Its first group has decimal digits only. -/
def decimal? (s : Option Sign) (cs : List Char) : Option Toml :=
  if !cs.isEmpty && !padded cs && (cs.takeWhile (· != '_')).all Decimal.isDigit &&
      grouped (isDigitOf 16) cs then
    some (whole 10 s cs)
  else none

/-! ### Real numbers -/

/-- Whether a character starts an exponent. -/
def isExponentMark (c : Char) : Bool := c == 'e' || c == 'E'

/-- Whether a character may stand in groups of decimal digits. -/
def isGroupChar (c : Char) : Bool := Decimal.isDigit c || c == '_'

/-- Takes groups with a decimal digit off the front of a text; returns the digits and the rest. -/
def digits? (cs : List Char) : Option (List Char × List Char) :=
  let ds := (cs.takeWhile isGroupChar).filter Decimal.isDigit
  if ds.isEmpty then none else some (ds, cs.dropWhile isGroupChar)

/-- Takes a point and the digits behind it off the front of a text, if there is a point. -/
def fraction? : (cs : List Char) → Option (List Char × List Char)
  | '.' :: cs => digits? cs
  | cs => some ([], cs)

/-- The exponent that is the whole text; it is zero if the text is empty. -/
def exponent? : (cs : List Char) → Option Int
  | [] => some 0
  | c :: cs => do
    if !isExponentMark c then failure
    let (s, cs) := sign cs
    let (ds, rest) ← digits? cs
    if rest.isEmpty then return signed s (Decimal.ofDigits ds) else failure

/-- A number with a point or an exponent, behind its sign. -/
def decimalReal? (cs : List Char) : Option Real := do
  if padded (cs.takeWhile isGroupChar) || !grouped Decimal.isDigit cs then failure
  let (units, rest) ← digits? cs
  let (fraction, rest) ← fraction? rest
  let exponent ← exponent? rest
  return .decimal (Decimal.ofDigits (units ++ fraction)) (exponent - fraction.length)

/-! ### All of them -/

/-- A number behind its sign. A point or an exponent makes it real; real numbers that are no
decimals have words. -/
def number? (s : Option Sign) (cs : List Char) : Option Toml :=
  if cs = ['i', 'n', 'f'] then some (.real .infinite)
  else if cs = ['n', 'a', 'n'] then some (.real .undefined)
  else if cs.any fun c => c == '.' || isExponentMark c then (decimalReal? cs).map .real
  else decimal? s cs

/-- The value that stands in a text without quotes. -/
def value? (cs : List Char) : Option Toml :=
  if cs = ['t', 'r', 'u', 'e'] then some (.bool true)
  else if cs = ['f', 'a', 'l', 's', 'e'] then some (.bool false)
  else if Moment.isMoment cs then some (.moment (String.ofList cs))
  else
    match cs with
    | '0' :: 'x' :: cs => based? 16 cs
    | '0' :: 'o' :: cs => based? 8 cs
    | '0' :: 'b' :: cs => based? 2 cs
    | cs =>
      let (s, cs) := sign cs
      number? s cs

end VisualQuery.Toml.Scalar
