/-!
# Decimal digits of whole numbers

The digits of a number, most significant first and without leading zeros, and the number that a
run of digits stands for. Reading the digits of `n` gives `n` back (`ofDigits_digits`), and every
character written is a digit (`isDigit_of_mem_digits`).
-/

namespace VisualQuery.Decimal

/-- Whether a character is one of the ten digits. -/
def isDigit (c : Char) : Bool := 48 ≤ c.toNat && c.toNat ≤ 57

/-- The digit for a number below ten. -/
def digitChar (d : Nat) : Char := Char.ofNat (48 + d)

/-- The number a digit stands for. -/
def digitValue (c : Char) : Nat := c.toNat - 48

/-- The digits of a number, most significant first. -/
def digits (n : Nat) : List Char :=
  if n < 10 then [digitChar n] else digits (n / 10) ++ [digitChar (n % 10)]
termination_by n

/-- The number that a run of digits stands for. -/
def ofDigits (cs : List Char) : Nat := cs.foldl (fun n c => 10 * n + digitValue c) 0

/-- The decimal text of an integer. -/
def intDigits : Int → List Char
  | .ofNat n => digits n
  | .negSucc n => '-' :: digits (n + 1)

/-- The decimal text of a natural number, as a string. -/
def natText (n : Nat) : String := String.ofList (digits n)

/-- The decimal text of an integer, as a string. -/
def intText (n : Int) : String := String.ofList (intDigits n)

/-! ### Digits one by one -/

theorem digitValue_digitChar {d : Nat} (h : d < 10) : digitValue (digitChar d) = d := by
  have all : ∀ d, d < 10 → digitValue (digitChar d) = d := by decide
  exact all d h

theorem isDigit_digitChar {d : Nat} (h : d < 10) : isDigit (digitChar d) = true := by
  have all : ∀ d, d < 10 → isDigit (digitChar d) = true := by decide
  exact all d h

theorem ofDigits_append_singleton (cs : List Char) (c : Char) :
    ofDigits (cs ++ [c]) = 10 * ofDigits cs + digitValue c := by
  simp [ofDigits]

/-! ### Whole numbers -/

/-- Reading the digits of a number gives the number. -/
theorem ofDigits_digits (n : Nat) : ofDigits (digits n) = n := by
  rw [digits]
  split
  · next h => simp [ofDigits, digitValue_digitChar h]
  · rw [ofDigits_append_singleton, ofDigits_digits (n / 10), digitValue_digitChar (by omega)]
    omega
termination_by n

/-- A number is written with digits only. -/
theorem isDigit_of_mem_digits {n : Nat} {c : Char} (h : c ∈ digits n) : isDigit c = true := by
  rw [digits] at h
  split at h
  · next hn =>
    obtain rfl := List.mem_singleton.1 h
    exact isDigit_digitChar hn
  · rcases List.mem_append.1 h with h | h
    · exact isDigit_of_mem_digits h
    · obtain rfl := List.mem_singleton.1 h
      exact isDigit_digitChar (by omega)
termination_by n

theorem digits_ne_nil (n : Nat) : digits n ≠ [] := by
  rw [digits]
  split <;> simp

end VisualQuery.Decimal
