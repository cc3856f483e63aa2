/-!
# The shortest decimal that stands for a double

A double is `m · 2^q`; the reals that round to it form an interval, whose ends belong to it when
`m` is even. The shortest decimal is the one with the fewest digits inside the interval, and of
those the nearest to the double; a tie goes to the even last digit. The search tries one digit, two
digits and so on in exact arithmetic: if a grid of decimals meets the interval at all, one of the
double's two neighbours on that grid lies in it.
-/

namespace VisualQuery.Decimal

/-- A positive double as `mantissa · 2^exponent`. -/
structure Binary where
  /-- The integer part of the representation. -/
  mantissa : Nat
  /-- The power of two. -/
  exponent : Int
  /-- Whether the next smaller double is only half as far away as the next greater one. -/
  narrowBelow : Bool

/-- The positive double with the given bits, the sign bit left out of account. -/
def Binary.ofBits (bits : UInt64) : Binary :=
  let fraction : Nat := bits.toNat % 0x10000000000000
  let biased : Nat := bits.toNat / 0x10000000000000 % 0x800
  -- without the leading bit, doubles are evenly spaced
  if biased = 0 then ⟨fraction, -1074, false⟩
  else ⟨0x10000000000000 + fraction, (biased : Int) - 1075, fraction = 0 && 1 < biased⟩

/-- A decimal `digits · 10^exponent`. -/
structure Scaled where
  /-- The digits as one number. -/
  digits : Nat
  /-- The power of ten. -/
  exponent : Int

/-- A positive power of `base`, as numerator and denominator. -/
def ratio (base : Nat) (exponent : Int) : Nat × Nat :=
  (base.pow exponent.toNat, base.pow (-exponent).toNat)

/-- The interval of reals that round to a double, and the double itself, over one denominator. -/
structure Target where
  /-- The lower end, times `scale`. -/
  low : Nat
  /-- The double, times `scale`. -/
  value : Nat
  /-- The upper end, times `scale`. -/
  high : Nat
  /-- The common denominator. -/
  scale : Nat
  /-- Whether the two ends round to the double as well. -/
  closed : Bool

/-- The interval around a double. -/
def Binary.target (b : Binary) : Target :=
  let (num, den) := ratio 2 (b.exponent - 2)
  { low := (4 * b.mantissa - (if b.narrowBelow then 1 else 2)) * num
    value := 4 * b.mantissa * num
    high := (4 * b.mantissa + 2) * num
    scale := den
    closed := b.mantissa % 2 == 0 }

/-- Whether the decimal `n · 10^e` lies in the interval. -/
def Target.accepts (t : Target) (n : Nat) (e : Int) : Bool :=
  let (num, den) := ratio 10 e
  let point := n * num * t.scale
  if t.closed then t.low * den ≤ point && point ≤ t.high * den
  else t.low * den < point && point < t.high * den

/-- The better of the double's two neighbours among the multiples of `10^e`, if one of them lies in
the interval. -/
def Target.onGrid (t : Target) (e : Int) : Option Scaled :=
  let (num, den) := ratio 10 e
  let unit := num * t.scale
  let below := t.value * den / unit
  let above := below + 1
  let rest := 2 * (t.value * den % unit)
  match 0 < below && t.accepts below e, t.accepts above e with
  -- both round to the double: the nearer one, and of two equally near ones the even one
  | true, true =>
    if rest < unit || (rest == unit && below % 2 == 0) then some ⟨below, e⟩ else some ⟨above, e⟩
  | true, false => some ⟨below, e⟩
  | false, true => some ⟨above, e⟩
  | false, false => none

/-- The power of ten just below a double: the greatest `e` with `10^e ≤ value`, searched upwards
from `e` for at most `fuel` steps. -/
def Target.magnitudeFrom (t : Target) : (fuel : Nat) → (e : Int) → Int
  | 0, e => e
  | fuel + 1, e =>
    let (num, den) := ratio 10 (e + 1)
    if num * t.scale ≤ t.value * den then t.magnitudeFrom fuel (e + 1) else e

/-- The first hit on the grids with `count`, `count + 1`, … digits. -/
def Target.search (t : Target) (magnitude : Int) : (fuel count : Nat) → Option Scaled
  | 0, _ => none
  | fuel + 1, count =>
    match t.onGrid (magnitude - (count - 1 : Nat)) with
    | some found => some found
    | none => t.search magnitude fuel (count + 1)

/-- Moves zeros at the end of the digits into the power of ten. -/
def Scaled.strip : (fuel : Nat) → Scaled → Scaled
  | 0, s => s
  | fuel + 1, s =>
    if s.digits ≠ 0 ∧ s.digits % 10 = 0 then strip fuel ⟨s.digits / 10, s.exponent + 1⟩ else s

/-- The shortest decimal for the positive double with the given bits. Seventeen digits are always
enough, and 700 steps lead from the smallest double's magnitude past the greatest one's. -/
def shortest (bits : UInt64) : Scaled :=
  let t := (Binary.ofBits bits).target
  match t.search (t.magnitudeFrom 700 (-330)) 17 1 with
  | some found => found.strip 20
  | none => ⟨0, 0⟩

end VisualQuery.Decimal
