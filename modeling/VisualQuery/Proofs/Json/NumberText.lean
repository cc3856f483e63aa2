import Mathlib.Tactic.Ring
import VisualQuery.Proofs.Decimal.Shortest
import VisualQuery.Proofs.Json.Scalars

/-!
# The text of a number tells its value

A written number is taken apart into sign, digits before and behind the point, and exponent
(`Number.Parts`). What the parts stand for is a rational number, and parts that are written alike in
front of texts that stop a number are the same (`Parts.chars_append_inj`).
-/

namespace VisualQuery

namespace Decimal

/-! ### Runs of digits -/

theorem ofDigits_append (cs ds : List Char) :
    ofDigits (cs ++ ds) = ofDigits cs * 10 ^ ds.length + ofDigits ds := by
  induction ds using List.reverseRecOn with
  | nil => simp [ofDigits]
  | append_singleton ds c ih =>
    rw [← List.append_assoc, ofDigits_append_singleton, ofDigits_append_singleton, ih,
      List.length_append, List.length_singleton, pow_succ]
    ring

theorem ofDigits_zeros (n : Nat) : ofDigits (List.replicate n '0') = 0 := by
  induction n with
  | zero => rfl
  | succ n ih =>
    rw [List.replicate_succ', ofDigits_append_singleton, ih]
    rfl

/-- Two runs of digits that end where no digit follows are read in the same way. -/
theorem digits_append_inj {cs ds r r' : List Char} (hcs : ∀ c ∈ cs, isDigit c = true)
    (hds : ∀ c ∈ ds, isDigit c = true) (hr : ∀ c ∈ r.head?, isDigit c = false)
    (hr' : ∀ c ∈ r'.head?, isDigit c = false) (h : cs ++ r = ds ++ r') : cs = ds ∧ r = r' := by
  induction cs generalizing ds with
  | nil =>
    cases ds with
    | nil => exact ⟨rfl, h⟩
    | cons d ds =>
      -- the other run would begin with a digit, but what follows this one does not
      have hd : isDigit d = false := hr d (by rw [← List.nil_append r, h]; rfl)
      exact absurd (hds d List.mem_cons_self) (by simp [hd])
  | cons c cs ih =>
    cases ds with
    | nil =>
      have hc : isDigit c = false := hr' c (by rw [← List.nil_append r', ← h]; rfl)
      exact absurd (hcs c List.mem_cons_self) (by simp [hc])
    | cons d ds =>
      rw [List.cons_append, List.cons_append, List.cons.injEq] at h
      obtain ⟨rfl, h⟩ := h
      obtain ⟨rfl, hrest⟩ := ih (fun c hc => hcs c (List.mem_cons_of_mem _ hc))
        (fun c hc => hds c (List.mem_cons_of_mem _ hc)) h
      exact ⟨rfl, hrest⟩

end Decimal

namespace Json.Number

open Decimal Reader

/-! ### The parts of a number -/

namespace Parts

/-- The sign in front of a number. -/
def signChars (negative : Bool) : List Char := if negative then ['-'] else []

/-- The point and the digits behind it. -/
def fractionChars (fraction : List Char) : List Char :=
  if fraction.isEmpty then [] else '.' :: fraction

/-- The exponent with its sign. -/
def exponentChars : Option (Bool × List Char) → List Char
  | none => []
  | some (below, ds) => 'e' :: (if below then '-' else '+') :: ds

/-- The parts as they stand in a text. -/
def chars (p : Parts) : List Char :=
  signChars p.negative ++ (p.integer ++ (fractionChars p.fraction ++ exponentChars p.exponent))

/-- The power of ten that an exponent names. -/
def power : Option (Bool × List Char) → Int
  | none => 0
  | some (below, ds) => if below then -(ofDigits ds : Int) else ofDigits ds

/-- The number that the parts stand for, its sign left out of account. -/
def value (p : Parts) : ℚ :=
  ofDigits (p.integer ++ p.fraction) * 10 ^ (power p.exponent - p.fraction.length)

/-- The parts are digits, and there is one before the point. -/
structure Digital (p : Parts) : Prop where
  /-- There is a digit before the point. -/
  integer_ne_nil : p.integer ≠ []
  /-- Before the point are digits. -/
  integer : ∀ c ∈ p.integer, isDigit c = true
  /-- Behind the point are digits. -/
  fraction : ∀ c ∈ p.fraction, isDigit c = true
  /-- The exponent is made of digits. -/
  exponent : ∀ e ∈ p.exponent, ∀ c ∈ e.2, isDigit c = true

theorem signChars_append_inj {negative negative' : Bool} {cs ds : List Char}
    (hcs : ∀ c ∈ cs.head?, c ≠ '-') (hds : ∀ c ∈ ds.head?, c ≠ '-')
    (h : signChars negative ++ cs = signChars negative' ++ ds) :
    negative = negative' ∧ cs = ds := by
  cases negative with
  | false =>
    cases negative' with
    | false => exact ⟨rfl, h⟩
    | true =>
      -- one has the sign and the other has not: its digits would begin with it
      obtain rfl : cs = '-' :: ds := h
      exact absurd rfl (hcs '-' rfl)
  | true =>
    cases negative' with
    | false =>
      obtain rfl : '-' :: cs = ds := h
      exact absurd rfl (hds '-' rfl)
    | true => exact ⟨rfl, List.append_cancel_left h⟩

/-- An exponent that stops a run of digits is read in one way. -/
theorem exponentChars_append_inj {e e' : Option (Bool × List Char)} {r r' : List Char}
    (he : ∀ x ∈ e, ∀ c ∈ x.2, isDigit c = true) (he' : ∀ x ∈ e', ∀ c ∈ x.2, isDigit c = true)
    (hr : Stops r) (hr' : Stops r') (h : exponentChars e ++ r = exponentChars e' ++ r') :
    e = e' ∧ r = r' := by
  cases e with
  | none =>
    cases e' with
    | none => exact ⟨rfl, h⟩
    | some x =>
      -- what follows a number does not begin like an exponent
      obtain rfl : r = 'e' :: _ := h
      exact absurd rfl (hr _ rfl).2.2.1
  | some x =>
    cases e' with
    | none =>
      obtain rfl : 'e' :: _ = r' := h
      exact absurd rfl (hr' _ rfl).2.2.1
    | some x' =>
      obtain ⟨below, ds⟩ := x
      obtain ⟨below', ds'⟩ := x'
      have htail := (List.cons.inj h).2
      obtain ⟨hsign, hdigits⟩ := List.cons.inj htail
      obtain ⟨rfl, hrest⟩ := digits_append_inj (he _ rfl) (he' _ rfl) (fun c hc => (hr c hc).1)
        (fun c hc => (hr' c hc).1) hdigits
      have hbelow : below = below' := by
        cases below <;> cases below' <;> first | rfl | exact absurd hsign (by decide)
      exact ⟨by rw [hbelow], hrest⟩

/-- What follows the digits before the point is no digit. -/
theorem stops_digits {fraction r : List Char} {e : Option (Bool × List Char)} (hr : Stops r) :
    ∀ c ∈ (fractionChars fraction ++ (exponentChars e ++ r)).head?, isDigit c = false := by
  intro c hc
  cases fraction with
  | cons d ds =>
    obtain rfl : '.' = c := Option.some.inj hc
    rfl
  | nil =>
    cases e with
    | none => exact (hr c hc).1
    | some x =>
      obtain rfl : 'e' = c := Option.some.inj hc
      rfl

theorem head?_exponentChars_ne_point {r : List Char} {e : Option (Bool × List Char)}
    (hr : Stops r) : (exponentChars e ++ r).head? ≠ some '.' := by
  cases e with
  | none => exact fun h => (hr '.' h).2.1 rfl
  | some x => exact fun h => absurd (Option.some.inj h) (by decide)

theorem fractionChars_append_inj {ds ds' r r' : List Char} {e e' : Option (Bool × List Char)}
    (hds : ∀ c ∈ ds, isDigit c = true) (hds' : ∀ c ∈ ds', isDigit c = true)
    (hr : Stops r) (hr' : Stops r')
    (h : fractionChars ds ++ (exponentChars e ++ r) =
      fractionChars ds' ++ (exponentChars e' ++ r')) :
    ds = ds' ∧ exponentChars e ++ r = exponentChars e' ++ r' := by
  cases ds with
  | nil =>
    cases ds' with
    | nil => exact ⟨rfl, h⟩
    | cons d' ds' =>
      -- only one of the two has a point
      refine absurd ?_ (head?_exponentChars_ne_point (e := e) hr)
      exact congrArg List.head? h
  | cons d ds =>
    cases ds' with
    | nil =>
      refine absurd ?_ (head?_exponentChars_ne_point (e := e') hr')
      exact (congrArg List.head? h).symm
    | cons d' ds' =>
      have hdigits : d :: ds ++ (exponentChars e ++ r) = d' :: ds' ++ (exponentChars e' ++ r') :=
        (List.cons.inj h).2
      have hstops : ∀ {e : Option (Bool × List Char)} {r : List Char}, Stops r →
          ∀ c ∈ (exponentChars e ++ r).head?, isDigit c = false :=
        fun hr => @stops_digits [] _ _ hr
      exact digits_append_inj hds hds' (hstops hr) (hstops hr') hdigits

/-- **Parts that are written alike are the same**, and so is what is behind them. -/
theorem chars_append_inj {p p' : Parts} {r r' : List Char} (hp : p.Digital) (hp' : p'.Digital)
    (hr : Stops r) (hr' : Stops r') (h : p.chars ++ r = p'.chars ++ r') : p = p' ∧ r = r' := by
  have hhead : ∀ {p : Parts}, p.Digital → ∀ cs, ∀ c ∈ (p.integer ++ cs).head?, c ≠ '-' := by
    intro p hp cs c hc hminus
    obtain ⟨d, ds, hds⟩ := List.exists_cons_of_ne_nil hp.integer_ne_nil
    rw [hds] at hc
    obtain rfl : d = c := Option.some.inj hc
    have hd := hp.integer d (hds ▸ List.mem_cons_self)
    rw [hminus] at hd
    exact absurd hd (by decide)
  simp only [chars, List.append_assoc] at h
  -- part by part from the left, each ending where the next one begins
  obtain ⟨hnegative, h⟩ := signChars_append_inj (hhead hp _) (hhead hp' _) h
  obtain ⟨hinteger, h⟩ :=
    digits_append_inj hp.integer hp'.integer (stops_digits hr) (stops_digits hr') h
  obtain ⟨hfraction, h⟩ := fractionChars_append_inj hp.fraction hp'.fraction hr hr' h
  obtain ⟨hexponent, hrest⟩ := exponentChars_append_inj hp.exponent hp'.exponent hr hr' h
  refine ⟨?_, hrest⟩
  cases p
  cases p'
  exact (Parts.mk.injEq ..).mpr ⟨hnegative, hinteger, hfraction, hexponent⟩

end Parts

/-! ### The parts of a double -/

/-- A point or an exponent makes a double. -/
def Parts.IsFractional (p : Parts) : Prop := p.fraction ≠ [] ∨ p.exponent ≠ none

theorem isDigit_of_mem_append {cs ds : List Char} (hcs : ∀ c ∈ cs, isDigit c = true)
    (hds : ∀ c ∈ ds, isDigit c = true) : ∀ c ∈ cs ++ ds, isDigit c = true := by
  intro c hc
  exact (List.mem_append.mp hc).elim (hcs c) (hds c)

theorem isDigit_of_mem_zeros (n : Nat) : ∀ c ∈ List.replicate n '0', isDigit c = true := by
  intro c hc
  rw [List.eq_of_mem_replicate hc]
  rfl

/-- The parts stand for a decimal and are written as its sign and a text. -/
structure Parts.Writes (p : Parts) (s : Scaled) (cs : List Char) : Prop where
  /-- The parts as a text. -/
  chars_eq : signChars p.negative ++ cs = p.chars
  /-- The parts consist of digits. -/
  digital : p.Digital
  /-- There is a point or an exponent. -/
  fractional : p.IsFractional
  /-- The value is that of the decimal. -/
  value_eq : p.value = s.value

theorem Parts.value_eq_scaled {p : Parts} {s : Scaled} (zeros : Nat)
    (hdigits : ofDigits (p.integer ++ p.fraction) = s.digits * 10 ^ zeros)
    (hpower : power p.exponent - p.fraction.length + zeros = s.exponent) : p.value = s.value := by
  rw [value, Scaled.value, hdigits, ← hpower, zpow_add₀ (by norm_num), zpow_natCast]
  push_cast
  ring

/-- A run of digits stands for a number. -/
structure Spells (ds : List Char) (n : Nat) : Prop where
  /-- There is a digit. -/
  ne_nil : ds ≠ []
  /-- All of them are digits. -/
  digit : ∀ c ∈ ds, isDigit c = true
  /-- The number that is read. -/
  value : ofDigits ds = n

theorem spells_digits (n : Nat) : Spells (digits n) n :=
  ⟨digits_ne_nil n, fun _ hc => isDigit_of_mem_digits hc, ofDigits_digits n⟩

namespace Spells

variable {s : Scaled} {ds : List Char}

/-- Zeros fill the places up to the point. -/
theorem writes_whole (h : Spells ds s.digits) (negative : Bool) (hexponent : 0 ≤ s.exponent) :
    (⟨negative, ds ++ List.replicate s.exponent.toNat '0', ['0'], none⟩ : Parts).Writes s
      (ds ++ List.replicate s.exponent.toNat '0' ++ ['.', '0']) := by
  -- the zeros that are appended are the power of ten, one more stands behind the point
  refine ⟨?_, ⟨?_, ?_, ?_, ?_⟩, .inl (by simp),
    Parts.value_eq_scaled (s.exponent.toNat + 1) ?_ ?_⟩
  · simp [Parts.chars, Parts.fractionChars, Parts.exponentChars]
  · simp [h.ne_nil]
  · exact isDigit_of_mem_append h.digit (isDigit_of_mem_zeros _)
  · simp [isDigit]
  · simp
  · rw [ofDigits_append_singleton, ofDigits_append, ofDigits_zeros, List.length_replicate, h.value,
      pow_succ, show digitValue '0' = 0 from rfl]
    ring
  · simp only [Parts.power, List.length_singleton]
    omega

/-- The point stands between two digits. -/
theorem writes_inside (h : Spells ds s.digits) (negative : Bool) {point : Nat} (hpos : 0 < point)
    (hpoint : point = ds.length + s.exponent) (hlt : point < ds.length) :
    (⟨negative, ds.take point, ds.drop point, none⟩ : Parts).Writes s
      (ds.take point ++ '.' :: ds.drop point) := by
  have hdrop : ds.drop point ≠ [] := by
    rw [ne_eq, List.drop_eq_nil_iff]
    omega
  -- the point only divides the digits, so their value and power are those of the decimal
  refine ⟨?_, ⟨?_, ?_, ?_, ?_⟩, .inl hdrop, Parts.value_eq_scaled 0 ?_ ?_⟩
  · simp [Parts.chars, Parts.fractionChars, Parts.exponentChars, hdrop]
  · simp only [ne_eq, List.take_eq_nil_iff, h.ne_nil, or_false]
    omega
  · exact fun c hc => h.digit c (List.mem_of_mem_take hc)
  · exact fun c hc => h.digit c (List.mem_of_mem_drop hc)
  · simp
  · rw [List.take_append_drop, h.value, pow_zero, mul_one]
  · simp only [Parts.power, List.length_drop]
    omega

/-- Zeros stand between the point and the digits. -/
theorem writes_small (h : Spells ds s.digits) (negative : Bool) {zeros : Nat}
    (hzeros : -(zeros : Int) = ds.length + s.exponent) :
    (⟨negative, ['0'], List.replicate zeros '0' ++ ds, none⟩ : Parts).Writes s
      (['0', '.'] ++ List.replicate zeros '0' ++ ds) := by
  -- leading zeros move the point and leave the value of the digits as it is
  refine ⟨?_, ⟨?_, ?_, ?_, ?_⟩, .inl (by simp [h.ne_nil]), Parts.value_eq_scaled 0 ?_ ?_⟩
  · simp [Parts.chars, Parts.fractionChars, Parts.exponentChars, h.ne_nil]
  · simp
  · simp [isDigit]
  · exact isDigit_of_mem_append (isDigit_of_mem_zeros _) h.digit
  · simp
  · rw [ofDigits_append, ofDigits_append, ofDigits_zeros, h.value, pow_zero]
    simp [show ofDigits ['0'] = 0 from rfl]
  · simp only [Parts.power, List.length_append, List.length_replicate]
    omega

/-- One digit stands before the point, and an exponent says where it belongs. -/
theorem writes_power (h : Spells ds s.digits) (negative : Bool) {point : Int}
    (hpoint : point = ds.length + s.exponent) :
    (⟨negative, ds.take 1, ds.drop 1,
      some (decide (¬0 < point), digits (point - 1).natAbs)⟩ : Parts).Writes s
      (ds.take 1 ++ (if (ds.drop 1).isEmpty then [] else '.' :: ds.drop 1) ++
        'e' :: (if 0 < point then ['+'] else []) ++ intDigits (point - 1)) := by
  refine ⟨?_, ⟨?_, ?_, ?_, ?_⟩, .inr (by simp), Parts.value_eq_scaled 0 ?_ ?_⟩
  · rw [intDigits_eq]
    -- the sign of the exponent is written either way, `+` included
    by_cases hpositive : 0 < point
    · have hexponent : ¬point - 1 < 0 := by omega
      simp [Parts.chars, Parts.fractionChars, Parts.exponentChars, hpositive, hexponent]
    · have hexponent : point - 1 < 0 := by omega
      simp [Parts.chars, Parts.fractionChars, Parts.exponentChars, hpositive, hexponent]
  · simp [h.ne_nil]
  · exact fun c hc => h.digit c (List.mem_of_mem_take hc)
  · exact fun c hc => h.digit c (List.mem_of_mem_drop hc)
  · rintro e he c hc
    obtain rfl := Option.some.inj he
    exact isDigit_of_mem_digits hc
  · rw [List.take_append_drop, h.value, pow_zero, mul_one]
  · have hlength : 0 < ds.length := List.length_pos_of_ne_nil h.ne_nil
    simp only [Parts.power, List.length_drop, ofDigits_digits, decide_eq_true_eq]
    split <;> omega

end Spells

/-- **The text of a decimal stands for the decimal**, in each of its four forms. -/
theorem exists_parts_scaledText (s : Scaled) (negative : Bool) :
    ∃ p : Parts, p.negative = negative ∧ p.Writes s (scaledText s) := by
  have h := spells_digits s.digits
  unfold scaledText
  dsimp only
  -- the four shapes of the text, in the order in which the printer tries them
  generalize digits s.digits = ds at h ⊢
  split
  · next hwhole => exact ⟨_, rfl, h.writes_whole negative hwhole.1⟩
  split
  · next hwhole hinside =>
    have hpoint := Int.toNat_of_nonneg hinside.1.le
    exact ⟨_, rfl, h.writes_inside negative (by omega) hpoint (by omega)⟩
  split
  · next hsmall => exact ⟨_, rfl, h.writes_small negative (by omega)⟩
  · exact ⟨_, rfl, h.writes_power negative rfl⟩

/-! ### The parts of a number -/

/-- The decimal that a double is written as, without its sign. -/
def decimalOf (bits : UInt64) : ℚ :=
  if size bits = 0 then 0 else (shortest (.ofNat (size bits))).value

/-- The parts are those of a number. -/
def Parts.Of (p : Parts) : Number → Prop
  | .whole w => ¬p.IsFractional ∧ p.negative = decide (w.val < 0) ∧ p.value = w.val.natAbs
  | .double bits =>
    p.IsFractional ∧ p.negative = decide (bits.toNat ≠ size bits) ∧ p.value = decimalOf bits

theorem exists_parts_doubleText (bits : UInt64) :
    ∃ p : Parts, doubleText bits = p.chars ∧ p.Digital ∧ p.Of (.double bits) := by
  have hsign : (if bits.toNat = size bits then [] else ['-']) =
      Parts.signChars (decide (bits.toNat ≠ size bits)) := by
    by_cases h : bits.toNat = size bits <;> simp [Parts.signChars, h]
  unfold doubleText
  rw [hsign]
  -- zero has no shortest decimal and is written apart, with its sign
  by_cases hzero : size bits = 0
  · have hdecimal : decimalOf bits = 0 := if_pos hzero
    rw [if_pos hzero]
    refine ⟨⟨decide (bits.toNat ≠ size bits), ['0'], ['0'], none⟩, rfl, ⟨?_, ?_, ?_, ?_⟩,
      .inl (by simp), rfl, ?_⟩
    · simp
    · simp [isDigit]
    · simp [isDigit]
    · simp
    · rw [hdecimal]
      simp [Parts.value, ofDigits, digitValue]
  · have hdecimal : decimalOf bits = (shortest (.ofNat (size bits))).value := if_neg hzero
    rw [if_neg hzero]
    obtain ⟨p, hnegative, hwrites⟩ :=
      exists_parts_scaledText (shortest (.ofNat (size bits))) (decide (bits.toNat ≠ size bits))
    rw [← hnegative]
    exact ⟨p, hwrites.chars_eq, hwrites.digital, hwrites.fractional, hnegative,
      hwrites.value_eq.trans hdecimal.symm⟩

theorem exists_parts_text (n : Number) :
    ∃ p : Parts, n.text = p.chars ∧ p.Digital ∧ p.Of n := by
  cases n with
  | whole w =>
    refine ⟨⟨decide (w.val < 0), digits w.val.natAbs, [], none⟩, ?_, ⟨digits_ne_nil _, ?_, ?_, ?_⟩,
      ?_, rfl, ?_⟩
    · rw [text, intDigits_eq]
      simp [Parts.chars, Parts.signChars, Parts.fractionChars, Parts.exponentChars]
    · exact fun c hc => isDigit_of_mem_digits hc
    · simp
    · simp
    · simp [Parts.IsFractional]
    · simp [Parts.value, Parts.power, ofDigits_digits]
  | double bits => exact exists_parts_doubleText bits

theorem size_eq_of_decimalOf {a b : UInt64} (h : decimalOf a = decimalOf b) : size a = size b := by
  have hlt : ∀ c : UInt64, size c < 0x8000000000000000 := fun c => Nat.mod_lt _ (by norm_num)
  unfold decimalOf at h
  by_cases ha : size a = 0
  · by_cases hb : size b = 0
    · rw [ha, hb]
    · rw [if_pos ha, if_neg hb] at h
      exact absurd h (shortest_pos (Nat.pos_of_ne_zero hb) (hlt b)).ne
  · by_cases hb : size b = 0
    · rw [if_neg ha, if_pos hb] at h
      exact absurd h (shortest_pos (Nat.pos_of_ne_zero ha) (hlt a)).ne'
    · rw [if_neg ha, if_neg hb] at h
      exact shortest_injective (Nat.pos_of_ne_zero ha) (hlt a) (Nat.pos_of_ne_zero hb) (hlt b) h

/-- Numbers with the same parts are the same. -/
theorem same_of_parts {p : Parts} {m n : Number} (hm : p.Of m) (hn : p.Of n) : m.same n = true := by
  cases m with
  | whole v =>
    cases n with
    | whole w =>
      obtain ⟨-, hsign, habs⟩ := hm
      obtain ⟨-, hsign', habs'⟩ := hn
      have heq : v.val.natAbs = w.val.natAbs := Nat.cast_injective (habs.symm.trans habs')
      have hneg : v.val < 0 ↔ w.val < 0 := decide_eq_decide.mp (hsign.symm.trans hsign')
      rw [same, beq_iff_eq]
      omega
    | double b => exact absurd hn.1 hm.1
  | double a =>
    cases n with
    | whole w => exact absurd hm.1 hn.1
    | double b =>
      obtain ⟨-, hsign, hvalue⟩ := hm
      obtain ⟨-, hsign', hvalue'⟩ := hn
      have hsize : size a = size b := size_eq_of_decimalOf (hvalue.symm.trans hvalue')
      have hneg : a.toNat ≠ size a ↔ b.toNat ≠ size b :=
        decide_eq_decide.mp (hsign.symm.trans hsign')
      -- the sign is the highest bit
      have hbits : a = b := by
        have ha : a.toNat < 2 ^ 64 := a.toNat_lt
        have hb : b.toNat < 2 ^ 64 := b.toNat_lt
        unfold size at hsize hneg
        rw [← UInt64.toNat_inj]
        omega
      rw [same, hbits, beq_self_eq_true, Bool.true_or]

/-- **Numbers that are written alike are the same**, and so is what is behind them. -/
theorem same_of_text_append {m n : Number} {r r' : List Char} (hr : Stops r) (hr' : Stops r')
    (h : m.text ++ r = n.text ++ r') : m.same n = true ∧ r = r' := by
  obtain ⟨p, hp, hdigital, hm⟩ := m.exists_parts_text
  obtain ⟨p', hp', hdigital', hn⟩ := n.exists_parts_text
  rw [hp, hp'] at h
  obtain ⟨rfl, hrest⟩ := Parts.chars_append_inj hdigital hdigital' hr hr' h
  exact ⟨same_of_parts hm hn, hrest⟩

end Json.Number

end VisualQuery
