import VisualQuery.Decimal.Natural

/-!
# Dates and times

A date is written `year-month-day`, a time `hour:minute`, with or without seconds, which may have a
fraction. A date and a time are joined by a `T` or a space, and only then may the distance to
universal time follow: a `Z`, or a sign, hours and minutes. Each part must lie in its range; a
minute may have a sixty-first second.
-/

namespace VisualQuery.Toml.Moment

/-- A number of two digits at the front of a text. -/
def pair? : List Char → Option (Nat × List Char)
  | a :: b :: cs =>
    if Decimal.isDigit a && Decimal.isDigit b then some (Decimal.ofDigits [a, b], cs) else none
  | _ => none

/-- Whether a year has a 29th of February. -/
def isLeap (year : Nat) : Bool := year % 4 = 0 && (year % 100 ≠ 0 || year % 400 = 0)

/-- How many days a month has. -/
def daysIn (year month : Nat) : Nat :=
  if month = 2 then if isLeap year then 29 else 28
  else if month ∈ [4, 6, 9, 11] then 30
  else 31

/-- Takes a date off the front of a text. -/
def dropDate? (cs : List Char) : Option (List Char) := do
  let (century, cs) ← pair? cs
  let (yearInCentury, cs) ← pair? cs
  match cs with
  | '-' :: cs =>
    let (month, cs) ← pair? cs
    match cs with
    | '-' :: cs =>
      let (day, cs) ← pair? cs
      if 1 ≤ month ∧ month ≤ 12 ∧ 1 ≤ day ∧ day ≤ daysIn (100 * century + yearInCentury) month then
        return cs
      else failure
    | _ => failure
  | _ => failure

/-- Takes the fraction of a second off the front of a text, if there is one. -/
def dropFraction? : (cs : List Char) → Option (List Char)
  | '.' :: c :: cs => if Decimal.isDigit c then some (cs.dropWhile Decimal.isDigit) else none
  -- a point has a digit behind it
  | ['.'] => none
  | cs => some cs

/-- Takes the seconds of a time off the front of a text, if there are any. -/
def dropSeconds? : (cs : List Char) → Option (List Char)
  | ':' :: cs => do
    let (second, cs) ← pair? cs
    if second ≤ 60 then dropFraction? cs else failure
  | cs => some cs

/-- Takes hours and minutes off the front of a text. -/
def dropMinutes? (cs : List Char) : Option (List Char) := do
  let (hour, cs) ← pair? cs
  match cs with
  | ':' :: cs =>
    let (minute, cs) ← pair? cs
    if hour ≤ 23 ∧ minute ≤ 59 then return cs else failure
  | _ => failure

/-- Takes a time off the front of a text. -/
def dropTime? (cs : List Char) : Option (List Char) := do dropSeconds? (← dropMinutes? cs)

/-- Whether a text is a distance to universal time, or empty. -/
def isOffset : (cs : List Char) → Bool
  | [] => true
  | [c] => c == 'Z' || c == 'z'
  | c :: cs => (c == '+' || c == '-') && dropMinutes? cs == some []

/-- Whether a text is a time and an optional distance to universal time. -/
def isZonedTime (cs : List Char) : Bool :=
  match dropTime? cs with
  | some rest => isOffset rest
  | none => false

/-- Whether a text is a date. -/
def isDate (cs : List Char) : Bool := dropDate? cs == some []

/-- Whether a text is a time. -/
def isTime (cs : List Char) : Bool := dropTime? cs == some []

/-- Whether a text is a date, a time, or both. -/
def isMoment (cs : List Char) : Bool :=
  match dropDate? cs with
  | some [] => true
  | some (c :: rest) => (c == 'T' || c == 't' || c == ' ') && isZonedTime rest
  | none => isTime cs

end VisualQuery.Toml.Moment
