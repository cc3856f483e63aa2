import VisualQuery.Decimal.Natural

/-!
# TOML values

A value as a tree. A table remembers how it came to be, for that decides whether it may still grow:
an inline table is closed, a table may have one header, and a table made by a dotted key takes
dotted keys only. An array of tables grows at its end and passes on to its last table what is said
about it.

All numbers keep their exact value. A real number is too large when the double next to it is
infinite. A number may also be written in a way that passes for a number but stands for none.
-/

namespace VisualQuery

namespace Toml

/-- How a table came to be. -/
inductive Origin where
  /-- It is written between braces. -/
  | inline
  /-- It has a header of its own. -/
  | header
  /-- It is named on the way to another header. -/
  | implied
  /-- It is named on the way to a dotted key. -/
  | dotted
deriving DecidableEq, Repr

/-- A number with a point or an exponent, or one of the words for what is no number. -/
inductive Real where
  /-- Infinity, of either sign. -/
  | infinite
  /-- Not a number. -/
  | undefined
  /-- The decimal `digits · 10^exponent`, of either sign. -/
  | decimal (digits : Nat) (exponent : Int)
deriving DecidableEq, Repr

/-- The least number whose nearest double is infinite: half a unit past the greatest double. -/
def Real.limit : Nat := Nat.pow 2 1024 - Nat.pow 2 970

/-- Whether a number that is written as finite has a finite double next to it. The count of its
digits before the point decides, unless it is that of the limit. -/
def Real.fits : Real → Bool
  | .decimal digits exponent =>
    let size : Int := (Decimal.digits digits).length + exponent
    if digits = 0 || size < 309 then true
    else if 309 < size then false
    else digits * Nat.pow 10 exponent.toNat < limit * Nat.pow 10 (-exponent).toNat
  | _ => true

end Toml

/-- A TOML value. -/
inductive Toml where
  /-- A text. -/
  | text (s : String)
  /-- A whole number. -/
  | integer (n : Int)
  /-- A whole number whose digits are missing or are not all digits of its base. -/
  | unreadable
  /-- A number with a point or an exponent. -/
  | real (x : Toml.Real)
  /-- A truth value. -/
  | bool (b : Bool)
  /-- A date, a time, or both, as it is written. -/
  | moment (written : String)
  /-- An array that is written out. -/
  | list (elements : List Toml)
  /-- A table. -/
  | table (origin : Toml.Origin) (members : List (String × Toml))
  /-- An array of tables, the last one first. -/
  | tables (rows : List (List (String × Toml)))

namespace Toml

mutual

/-- Whether all numbers in a value can be represented: whole numbers as words of 128 bits, with or
without a sign, and others as finite doubles. -/
def fits : Toml → Bool
  | .integer n =>
    -0x80000000000000000000000000000000 ≤ n && n < 0x100000000000000000000000000000000
  | .unreadable => false
  | .real x => x.fits
  | .list elements => elementsFit elements
  | .table _ members => membersFit members
  | .tables rows => rowsFit rows
  | .text _ => true
  | .bool _ => true
  | .moment _ => true

/-- Whether all numbers in a list of values can be represented. -/
def elementsFit : List Toml → Bool
  | [] => true
  | v :: rest => v.fits && elementsFit rest

/-- Whether all numbers in the members of a table can be represented. -/
def membersFit : List (String × Toml) → Bool
  | [] => true
  | (_, v) :: rest => v.fits && membersFit rest

/-- Whether all numbers in the tables of an array can be represented. -/
def rowsFit : List (List (String × Toml)) → Bool
  | [] => true
  | row :: rest => membersFit row && rowsFit rest

end

end Toml

end VisualQuery
