import VisualQuery.Decimal.Natural
import VisualQuery.Decimal.Shortest

/-!
# Numbers of a JSON text

A number without point and exponent is kept exactly when it lies between `-2^63` and `2^64 - 1`;
every other number is a double. A double is read by collecting digits into a word of 64 bits and
scaling it by one power of ten, so digits past the nineteenth or twentieth are dropped and the last
bit may differ from the nearest double.
-/

namespace VisualQuery.Json

/-- A whole number that fits a signed or an unsigned word of 64 bits. -/
structure Whole where
  /-- The number. -/
  val : Int
  /-- It is at least the least signed word. -/
  lower : -0x8000000000000000 ≤ val
  /-- It is at most the greatest unsigned word. -/
  upper : val < 0x10000000000000000
deriving DecidableEq, Repr

/-- A whole number, if it fits. -/
def Whole.ofInt? (n : Int) : Option Whole :=
  if h : -0x8000000000000000 ≤ n ∧ n < 0x10000000000000000 then some ⟨n, h.1, h.2⟩ else none

/-- A number of a JSON text. -/
inductive Number where
  /-- A whole number, kept exactly. -/
  | whole (n : Whole)
  /-- A finite double, by its bits. -/
  | double (bits : UInt64)
deriving DecidableEq, Repr

namespace Number

/-- The bits of a double without its sign. -/
def size (bits : UInt64) : Nat := bits.toNat % 0x8000000000000000

/-- Equality of numbers as values: a whole number differs from every double, and the two zeros of
the doubles are one value. -/
def same : Number → Number → Bool
  | .whole m, .whole n => m.val == n.val
  | .double a, .double b => a == b || (size a == 0 && size b == 0)
  | _, _ => false

/-! ### Writing -/

/-- The decimal `digits · 10^exponent` in positional notation while its point stands at most
sixteen places behind the first digit or four zeros before it, and with an exponent otherwise. An
exponent has its sign, also when it is positive. -/
def scaledText (s : Decimal.Scaled) : List Char :=
  let ds := Decimal.digits s.digits
  let point : Int := ds.length + s.exponent
  if 0 ≤ s.exponent ∧ point ≤ 16 then
    ds ++ List.replicate s.exponent.toNat '0' ++ ['.', '0']
  else if 0 < point ∧ point ≤ 16 then
    ds.take point.toNat ++ '.' :: ds.drop point.toNat
  else if -5 < point ∧ point ≤ 0 then
    ['0', '.'] ++ List.replicate (-point).toNat '0' ++ ds
  else
    let fraction := ds.drop 1
    ds.take 1 ++ (if fraction.isEmpty then [] else '.' :: fraction) ++
      'e' :: (if 0 < point then ['+'] else []) ++ Decimal.intDigits (point - 1)

/-- A finite double as the shortest decimal that stands for it. -/
def doubleText (bits : UInt64) : List Char :=
  (if bits.toNat = size bits then [] else ['-']) ++
    if size bits = 0 then ['0', '.', '0']
    else scaledText (Decimal.shortest (UInt64.ofNat (size bits)))

/-- The text of a number. -/
def text : Number → List Char
  | .whole n => Decimal.intDigits n.val
  | .double bits => doubleText bits

/-! ### Reading -/

/-- Collects digits into a word of 64 bits; returns the word, how many digits it took, and whether
some were left over. -/
def collect (word count : Nat) : List Char → Nat × Nat × Bool
  | [] => (word, count, false)
  | c :: cs =>
    let next := 10 * word + Decimal.digitValue c
    if next < 0x10000000000000000 then collect next (count + 1) cs else (word, count, true)

/-- Scales a double by a power of ten; `none` past the greatest double. -/
def scale (x : Float) (exponent : Int) : Option Float :=
  if 0 ≤ exponent then
    if exponent ≤ 308 then
      let y := x * Float.ofScientific 1 false exponent.toNat
      if y.isInf then none else some y
    else if x == 0 then some x else none
  else if h : -308 ≤ exponent then
    some (x / Float.ofScientific 1 false (-exponent).toNat)
  else if x == 0 then some x
  -- the power of ten is no double, so it is divided by in parts
  else scale (x / Float.ofScientific 1 false 308) (exponent + 308)
termination_by exponent.natAbs
decreasing_by omega

/-- The parts of a number as they stand in a text. -/
structure Parts where
  /-- Whether a minus sign comes first. -/
  negative : Bool
  /-- The digits before the point. -/
  integer : List Char
  /-- The digits behind the point. -/
  fraction : List Char
  /-- The exponent: whether it is negative, and its digits. -/
  exponent : Option (Bool × List Char)

/-- The double with the given sign. -/
def signed (negative : Bool) (x : Float) : Number :=
  .double (if negative then -x else x).toBits

/-- The number its parts stand for; `none` past the greatest double. An exponent is at most
`2^31 - 1`: a greater one makes a number other than zero too great or zero. -/
def Parts.value? (p : Parts) : Option Number :=
  let (head, headCount, dropped) := collect 0 0 p.integer
  let (word, fractionCount, _) := collect head 0 p.fraction
  let scaled (e : Int) : Option Number :=
    (scale (UInt64.ofNat word).toFloat (p.integer.length - headCount - fractionCount + e)).map
      (signed p.negative)
  match p.exponent with
  | some (below, ds) =>
    let e := Decimal.ofDigits ds
    if e < 0x80000000 then scaled (if below then -(e : Int) else e)
    else if word = 0 || below then some (signed p.negative 0) else none
  | none =>
    -- a point makes a double, and so does a digit too many
    if dropped || !p.fraction.isEmpty then scaled 0
    else if !p.negative then
      match Whole.ofInt? word with
      | some n => some (.whole n)
      | none => scaled 0
    -- no whole number is the negative zero
    else if word = 0 then some (signed true 0)
    else
      match Whole.ofInt? (-(word : Int)) with
      | some n => some (.whole n)
      | none => scaled 0

end Number

end VisualQuery.Json
