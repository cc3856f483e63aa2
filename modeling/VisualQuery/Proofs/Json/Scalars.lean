import VisualQuery.Json.Reader
import VisualQuery.Proofs.Uuid

/-!
# Words, texts and numbers are read back

What stands for a scalar in a written text is taken off again by the reader, and nothing behind it
is touched. Texts and words end by themselves. A number does not: it goes on as long as digits, a
point or an exponent follow, so what stands behind it has to stop it (`Stops`). In a written text
that is a comma, a line break, a bracket or the end.
-/

namespace VisualQuery

namespace Decimal

theorem takeWhile_digits_append (n : Nat) {rest : List Char}
    (h : ∀ c ∈ rest.head?, isDigit c = false) :
    (digits n ++ rest).takeWhile isDigit = digits n := by
  rw [List.takeWhile_append_of_pos fun c hc => isDigit_of_mem_digits hc]
  cases rest with
  | nil => simp
  | cons c rest => simp [h c rfl]

theorem dropWhile_digits_append (n : Nat) {rest : List Char}
    (h : ∀ c ∈ rest.head?, isDigit c = false) :
    (digits n ++ rest).dropWhile isDigit = rest := by
  rw [List.dropWhile_append_of_pos fun c hc => isDigit_of_mem_digits hc]
  cases rest with
  | nil => rfl
  | cons c rest => simp [h c rfl]

theorem digitChar_ne_zero {d : Nat} (h : d < 10) (hd : d ≠ 0) : digitChar d ≠ '0' := by
  have all : ∀ d, d < 10 → d ≠ 0 → digitChar d ≠ '0' := by decide
  exact all d h hd

/-- Only the number zero is written with a zero in front. -/
theorem head?_digits_ne_zero {n : Nat} (h : n ≠ 0) : (digits n).head? ≠ some '0' := by
  rw [digits]
  split
  · next hn =>
    intro heq
    exact digitChar_ne_zero hn h (Option.some.inj heq)
  · -- the first digit is that of the number without its last one
    have hhead := head?_digits_ne_zero (n := n / 10) (by omega)
    obtain ⟨c, ds, hds⟩ := List.exists_cons_of_ne_nil (digits_ne_nil (n / 10))
    rw [hds] at hhead ⊢
    exact hhead
termination_by n

theorem le_foldl_digits (cs : List Char) (n : Nat) :
    n ≤ cs.foldl (fun n c => 10 * n + digitValue c) n := by
  induction cs generalizing n with
  | nil => exact Nat.le_refl n
  | cons c cs ih =>
    have hstep : n ≤ 10 * n + digitValue c := by omega
    exact Nat.le_trans hstep (ih _)

theorem intDigits_eq (n : Int) :
    intDigits n = (if n < 0 then ['-'] else []) ++ digits n.natAbs := by
  cases n with
  | ofNat n =>
    have hn : ¬Int.ofNat n < 0 := Int.not_lt.mpr (Int.natCast_nonneg n)
    rw [if_neg hn]
    rfl
  | negSucc n =>
    rw [if_pos (Int.negSucc_lt_zero n)]
    rfl

end Decimal

namespace Json

namespace Number

/-- As long as the number fits a word, every digit of it is collected. -/
theorem collect_of_lt {cs : List Char} {word count : Nat}
    (h : cs.foldl (fun n c => 10 * n + Decimal.digitValue c) word < 0x10000000000000000) :
    collect word count cs =
      (cs.foldl (fun n c => 10 * n + Decimal.digitValue c) word, count + cs.length, false) := by
  induction cs generalizing word count with
  | nil => rfl
  | cons c cs ih =>
    -- the digits so far make up a smaller number than all of them
    have hnext : 10 * word + Decimal.digitValue c < 0x10000000000000000 :=
      Nat.lt_of_le_of_lt (Decimal.le_foldl_digits cs _) h
    rw [collect, if_pos hnext, ih h, List.length_cons, List.foldl_cons]
    congr 2
    omega

theorem collect_digits {n : Nat} (h : n < 0x10000000000000000) :
    collect 0 0 (Decimal.digits n) = (n, (Decimal.digits n).length, false) := by
  have hvalue := Decimal.ofDigits_digits n
  unfold Decimal.ofDigits at hvalue
  rw [collect_of_lt (by rw [hvalue]; exact h), hvalue, Nat.zero_add]

/-- The digits of a whole number, without point and exponent, stand for it. -/
theorem value?_digits (w : Whole) :
    (Parts.mk (decide (w.val < 0)) (Decimal.digits w.val.natAbs) [] none).value? =
      some (.whole w) := by
  obtain ⟨n, hlower, hupper⟩ := w
  -- the digits are collected in 64 bits, which is enough for a whole number of either sign
  have hfits : n.natAbs < 0x10000000000000000 := by omega
  have hfull : Whole.ofInt? n = some ⟨n, hlower, hupper⟩ := dif_pos ⟨hlower, hupper⟩
  unfold Parts.value?
  simp only [collect_digits hfits, collect, List.isEmpty_nil, Bool.not_true, Bool.or_self,
    Bool.false_eq_true, if_false]
  by_cases hneg : n < 0
  · have hne : n.natAbs ≠ 0 := by omega
    have habs : -(n.natAbs : Int) = n := by omega
    simp only [hneg, decide_true, Bool.not_true, Bool.false_eq_true, if_false, hne, habs, hfull]
  · have habs : (n.natAbs : Int) = n := by omega
    simp only [hneg, decide_false, Bool.not_false, if_true, habs, hfull]

end Number

namespace Reader

theorem bind_ok {α β : Type} {m : Reader α} {f : α → Reader β} {cs rest : List Char} {a : α}
    (h : m cs = .ok (a, rest)) : (m >>= f) cs = f a rest := by
  show Except.bind (m cs) _ = _
  rw [h]
  rfl

/-! ### Spaces -/

/-- Nothing but spaces. -/
def Spaces (cs : List Char) : Prop := ∀ c ∈ cs, isSpace c = true

theorem Spaces.nil : Spaces [] := fun _ h => absurd h List.not_mem_nil

theorem Spaces.newLine (level : Nat) : Spaces (newLine level) := by
  intro c hc
  rcases List.mem_cons.1 hc with rfl | hc
  · rfl
  · rw [List.eq_of_mem_replicate hc]
    rfl

theorem peek_spaces {spaces : List Char} (h : Spaces spaces) {c : Char} (hc : isSpace c = false)
    (rest : List Char) : peek (spaces ++ c :: rest) = .ok (some c, c :: rest) := by
  have hdrop : (spaces ++ c :: rest).dropWhile isSpace = c :: rest := by
    rw [List.dropWhile_append_of_pos h, List.dropWhile_cons_of_neg (by simp [hc])]
  show Except.ok (((spaces ++ c :: rest).dropWhile isSpace).head?,
    (spaces ++ c :: rest).dropWhile isSpace) = _
  rw [hdrop]
  rfl

theorem peek_cons {c : Char} (hc : isSpace c = false) (rest : List Char) :
    peek (c :: rest) = .ok (some c, c :: rest) := peek_spaces .nil hc rest

@[simp] theorem advance_cons (c : Char) (rest : List Char) :
    advance (c :: rest) = .ok ((), rest) := rfl

theorem expectWord_append (word rest : List Char) :
    expectWord word (word ++ rest) = .ok ((), rest) := by
  induction word with
  | nil => rfl
  | cons w word ih =>
    unfold expectWord
    show (if w = w then expectWord word else throw .malformed) (word ++ rest) = _
    rw [if_pos rfl, ih]

theorem advance_word {α : Type} (c : Char) (word rest : List Char) (a : α) :
    (do advance; expectWord word; return a : Reader α) (c :: (word ++ rest)) = .ok (a, rest) := by
  rw [bind_ok (advance_cons c _), bind_ok (expectWord_append word rest)]
  rfl

/-! ### Texts -/

theorem hexEscape_hexDigits {n : Nat} (h : n < Nat.pow 16 4) (rest : List Char) :
    hexEscape (Text.hexDigits 4 n ++ rest) = .ok (n, rest) := by
  have hlength := Text.length_hexDigits 4 n
  have hdigits := Text.ofHexDigits?_hexDigits h
  match hds : Text.hexDigits 4 n with
  | [a, b, c, d] =>
    rw [hds] at hdigits
    simp only [List.cons_append, List.nil_append, hexEscape, hdigits]
  | [] | [_] | [_, _] | [_, _, _] | _ :: _ :: _ :: _ :: _ :: _ =>
    rw [hds] at hlength
    simp at hlength

/-- A control character is written by its number, which is that of no half of a pair. -/
theorem escape_hexDigits {c : Char} (h : c.toNat < 0x20) (rest : List Char) :
    escape ('u' :: Text.hexDigits 4 c.toNat ++ rest) = .ok (c, rest) := by
  have hcode : c.toNat < Nat.pow 16 4 := Nat.lt_trans h (by decide)
  rw [List.cons_append, escape, hexEscape_hexDigits hcode]
  show (if 0xdc00 ≤ c.toNat ∧ c.toNat ≤ 0xdfff then _ else _) = _
  rw [if_neg (by omega), if_neg (by omega), Char.ofNat_toNat]
  rfl

/-- A written character stands for itself, or it is an escape that stands for it. -/
theorem escapedChar_cases (c : Char) :
    (escapedChar c = [c] ∧ c ≠ '"' ∧ c ≠ '\\' ∧ ¬c.toNat < 0x20) ∨
      ∃ e, escapedChar c = '\\' :: e ∧ ∀ rest, escape (e ++ rest) = .ok (c, rest) := by
  unfold escapedChar
  -- the eight escapes in the order of the printer; any other character stands for itself
  split
  · next h => exact .inr ⟨['"'], rfl, fun rest => by rw [h]; rfl⟩
  split
  · next h => exact .inr ⟨['\\'], rfl, fun rest => by rw [h]; rfl⟩
  split
  · next h => exact .inr ⟨['b'], rfl, fun rest => by rw [h]; rfl⟩
  split
  · next h => exact .inr ⟨['t'], rfl, fun rest => by rw [h]; rfl⟩
  split
  · next h => exact .inr ⟨['n'], rfl, fun rest => by rw [h]; rfl⟩
  split
  · next h => exact .inr ⟨['f'], rfl, fun rest => by rw [h]; rfl⟩
  split
  · next h => exact .inr ⟨['r'], rfl, fun rest => by rw [h]; rfl⟩
  split
  · next h => exact .inr ⟨'u' :: Text.hexDigits 4 c.toNat, rfl, escape_hexDigits h⟩
  · next hquote hslash _ _ _ _ _ hcontrol => exact .inl ⟨rfl, hquote, hslash, hcontrol⟩

theorem textBodyIn_escaped {cs : List Char} {fuel : Nat} (h : cs.length < fuel)
    (rest : List Char) :
    textBodyIn fuel (cs.flatMap escapedChar ++ '"' :: rest) = .ok (cs, rest) := by
  induction cs generalizing fuel with
  | nil =>
    obtain ⟨fuel, rfl⟩ := Nat.exists_eq_add_one.mpr h
    rfl
  | cons c cs ih =>
    obtain ⟨fuel, rfl⟩ := Nat.exists_eq_add_one_of_ne_zero (Nat.ne_zero_of_lt h)
    have hih : textBodyIn fuel (cs.flatMap escapedChar ++ '"' :: rest) = .ok (cs, rest) :=
      ih (Nat.lt_of_succ_lt_succ h)
    rw [List.flatMap_cons, List.append_assoc]
    -- one turn of the reader takes a whole escape, so the fuel counts characters of the text that
    -- is read, not of what is written
    rcases escapedChar_cases c with ⟨hc, hquote, hslash, hcontrol⟩ | ⟨e, hc, he⟩
    · rw [hc, List.singleton_append, textBodyIn, if_neg hquote, if_neg hslash, if_neg hcontrol, hih]
      rfl
    · rw [hc, List.cons_append, textBodyIn, if_neg (by decide), if_pos rfl, he]
      show Except.bind (textBodyIn fuel _) _ = _
      rw [hih]
      rfl

theorem length_le_flatMap_escapedChar (cs : List Char) :
    cs.length ≤ (cs.flatMap escapedChar).length := by
  induction cs with
  | nil => exact Nat.le_refl 0
  | cons c cs ih =>
    have hc : 1 ≤ (escapedChar c).length := by
      rcases escapedChar_cases c with ⟨hc, -⟩ | ⟨e, hc, -⟩ <;> rw [hc] <;> simp
    rw [List.flatMap_cons, List.length_append, List.length_cons]
    omega

/-- **A text is read back, whatever its characters are.** -/
theorem textBody_escaped (s : String) (rest : List Char) :
    textBody (s.toList.flatMap escapedChar ++ '"' :: rest) = .ok (s, rest) := by
  have hfuel : s.toList.length <
      (s.toList.flatMap escapedChar ++ '"' :: rest).length + 1 := by
    have hle := length_le_flatMap_escapedChar s.toList
    rw [List.length_append]
    omega
  unfold textBody
  rw [textBodyIn_escaped hfuel]
  show Except.ok (String.ofList s.toList, rest) = _
  rw [String.ofList_toList]

/-! ### Numbers -/

/-- A number in front of this text ends where the text begins. -/
def Stops (cs : List Char) : Prop :=
  ∀ c ∈ cs.head?, Decimal.isDigit c = false ∧ c ≠ '.' ∧ c ≠ 'e' ∧ c ≠ 'E'

theorem Stops.nil : Stops [] := fun _ h => absurd h (by simp)

theorem Stops.cons {c : Char}
    (h : Decimal.isDigit c = false ∧ c ≠ '.' ∧ c ≠ 'e' ∧ c ≠ 'E') (rest : List Char) :
    Stops (c :: rest) := by
  intro d hd
  obtain rfl : c = d := Option.some.inj hd
  exact h

/-- A number ends at a space, too. -/
theorem Stops.spaces_append {spaces cs : List Char} (hspaces : Spaces spaces) (h : Stops cs) :
    Stops (spaces ++ cs) := by
  cases spaces with
  | nil => exact h
  | cons c spaces =>
    have hc : isSpace c = true := hspaces c List.mem_cons_self
    have hcases : c = ' ' ∨ c = '\n' ∨ c = '\t' ∨ c = '\r' := by simpa [isSpace, or_assoc] using hc
    refine .cons ?_ _
    rcases hcases with rfl | rfl | rfl | rfl <;> decide

theorem integerDigits_digits (n : Nat) {rest : List Char} (h : Stops rest) :
    integerDigits (Decimal.digits n ++ rest) = .ok (Decimal.digits n, rest) := by
  have hstop : ∀ c ∈ rest.head?, Decimal.isDigit c = false := fun c hc => (h c hc).1
  obtain ⟨c, ds, hds⟩ := List.exists_cons_of_ne_nil (Decimal.digits_ne_nil n)
  have hc : Decimal.isDigit c = true := Decimal.isDigit_of_mem_digits (hds ▸ List.mem_cons_self)
  have htake : takeDigits (Decimal.digits n ++ rest) = .ok (Decimal.digits n, rest) := by
    unfold takeDigits
    rw [Decimal.takeWhile_digits_append n hstop, Decimal.dropWhile_digits_append n hstop]
  -- a zero in front is the only digit
  have hlead : ¬(c = '0' ∧ (Decimal.digits n).length ≠ 1) := by
    rintro ⟨rfl, hlength⟩
    by_cases hn : n = 0
    · subst hn
      exact hlength (by rw [Decimal.digits]; rfl)
    · exact Decimal.head?_digits_ne_zero hn (by rw [hds]; rfl)
  have hget : (get : Reader (List Char)) (Decimal.digits n ++ rest) =
      .ok (Decimal.digits n ++ rest, Decimal.digits n ++ rest) := rfl
  unfold integerDigits
  rw [bind_ok hget]
  rw [hds] at htake hlead ⊢
  simp only [List.cons_append] at htake ⊢
  rw [if_pos hc, bind_ok htake, if_neg hlead]
  rfl

theorem fractionPart_of_stops {rest : List Char} (h : Stops rest) :
    fractionPart rest = .ok ([], rest) := by
  cases rest with
  | nil => rfl
  | cons c rest =>
    have hc : c ≠ '.' := (h c rfl).2.1
    have hget : (get : Reader (List Char)) (c :: rest) = .ok (c :: rest, c :: rest) := rfl
    unfold fractionPart
    rw [bind_ok hget]
    simp only [List.cons.injEq, hc, false_and, imp_self, implies_true]
    rfl

theorem exponentPart?_of_stops {rest : List Char} (h : Stops rest) :
    exponentPart? rest = .ok (none, rest) := by
  cases rest with
  | nil => rfl
  | cons c rest =>
    have hc : ¬(c = 'e' ∨ c = 'E') := not_or.mpr (h c rfl).2.2
    have hget : (get : Reader (List Char)) (c :: rest) = .ok (c :: rest, c :: rest) := rfl
    unfold exponentPart?
    rw [bind_ok hget]
    simp only [if_neg hc]
    rfl

theorem unsignedNumber_digits (w : Whole) {rest : List Char} (h : Stops rest) :
    unsignedNumber (decide (w.val < 0)) (Decimal.digits w.val.natAbs ++ rest) =
      .ok (.whole w, rest) := by
  unfold unsignedNumber
  rw [bind_ok (integerDigits_digits _ h), bind_ok (fractionPart_of_stops h),
    bind_ok (exponentPart?_of_stops h), Number.value?_digits w]
  rfl

/-- **A whole number is read back.** -/
theorem number_intDigits (w : Whole) {rest : List Char} (h : Stops rest) :
    number (Decimal.intDigits w.val ++ rest) = .ok (.whole w, rest) := by
  have hread := unsignedNumber_digits w h
  rw [Decimal.intDigits_eq]
  -- a sign is taken off first; without one the reader has to see that the digit is none
  by_cases hneg : w.val < 0
  · rw [decide_eq_true hneg] at hread
    rw [if_pos hneg]
    exact hread
  · rw [decide_eq_false hneg] at hread
    rw [if_neg hneg, List.nil_append]
    obtain ⟨c, ds, hds⟩ := List.exists_cons_of_ne_nil (Decimal.digits_ne_nil w.val.natAbs)
    have hget : ∀ cs, (get : Reader (List Char)) cs = .ok (cs, cs) := fun _ => rfl
    unfold number
    rw [bind_ok (hget _)]
    -- no digit is a minus sign
    have hminus : c ≠ '-' := by
      rintro rfl
      exact absurd (Decimal.isDigit_of_mem_digits (hds ▸ List.mem_cons_self)) (by decide)
    rw [hds, List.cons_append] at hread ⊢
    simp only [List.cons.injEq, hminus, false_and, imp_self, implies_true]
    exact hread

end Reader

end Json

end VisualQuery
