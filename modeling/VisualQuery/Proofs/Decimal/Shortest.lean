import Mathlib.Algebra.Order.Field.Power
import Mathlib.Algebra.Order.Field.Rat
import Mathlib.Tactic.FieldSimp
import Mathlib.Tactic.Linarith
import Mathlib.Tactic.NormNum
import Mathlib.Tactic.Positivity
import Mathlib.Tactic.Ring
import VisualQuery.Decimal.Shortest

/-!
# The shortest decimal stands for one double only

Decimals, doubles and the ends of intervals are compared as rational numbers. The doubles are taken
in the order of their sizes: the interval of each ends where that of the next one begins
(`Binary.upper_eq_lower`). The common end belongs to the double with the even mantissa, which is
every second one, so no number lies in two intervals (`Binary.not_contains_of_lt`).

The search for the shortest decimal comes to a hit (`Target.Proper.search_isSome`): with seventeen
digits the grid is finer than the interval is wide. A hit lies in the interval, so two doubles with
the same shortest decimal are one (`shortest_injective`).
-/

namespace VisualQuery.Decimal

/-! ### Powers as fractions -/

section Ratio

variable {base : Nat} (e : Int)

theorem ratio_fst_pos (h : 0 < base) : 0 < (ratio base e).1 := Nat.pow_pos h

theorem ratio_snd_pos (h : 0 < base) : 0 < (ratio base e).2 := Nat.pow_pos h

/-- Numerator and denominator stand for the power. -/
theorem ratio_fst (h : 0 < base) :
    ((ratio base e).1 : ℚ) = (base : ℚ) ^ e * (ratio base e).2 := by
  have hbase : (base : ℚ) ≠ 0 := Nat.cast_ne_zero.mpr h.ne'
  obtain ⟨n, rfl | rfl⟩ := e.eq_nat_or_neg
  · simp [ratio]
  · simp [ratio, hbase]

theorem ratio_mul_le_iff (h : 0 < base) (a b : Nat) :
    (ratio base e).1 * a ≤ b * (ratio base e).2 ↔ (base : ℚ) ^ e * a ≤ b := by
  have hden : (0 : ℚ) < (ratio base e).2 := Nat.cast_pos.mpr (ratio_snd_pos e h)
  rw [← Nat.cast_le (α := ℚ), Nat.cast_mul, Nat.cast_mul, ratio_fst e h, mul_right_comm]
  exact mul_le_mul_iff_left₀ hden

theorem le_ratio_mul_iff (h : 0 < base) (a b : Nat) :
    b * (ratio base e).2 ≤ (ratio base e).1 * a ↔ (b : ℚ) ≤ (base : ℚ) ^ e * a := by
  have hden : (0 : ℚ) < (ratio base e).2 := Nat.cast_pos.mpr (ratio_snd_pos e h)
  rw [← Nat.cast_le (α := ℚ), Nat.cast_mul, Nat.cast_mul, ratio_fst e h, mul_right_comm]
  exact mul_le_mul_iff_left₀ hden

end Ratio

/-! ### Decimals, doubles and intervals as numbers -/

/-- The number that a decimal is. -/
def Scaled.value (s : Scaled) : ℚ := s.digits * 10 ^ s.exponent

/-- The lower end of an interval. -/
def Target.lower (t : Target) : ℚ := t.low / t.scale

/-- The upper end of an interval. -/
def Target.upper (t : Target) : ℚ := t.high / t.scale

/-- Whether a number rounds to the double of an interval. -/
def Target.Contains (t : Target) (x : ℚ) : Prop :=
  if t.closed then t.lower ≤ x ∧ x ≤ t.upper else t.lower < x ∧ x < t.upper

theorem Scaled.value_strip (fuel : Nat) (s : Scaled) : (s.strip fuel).value = s.value := by
  induction fuel generalizing s with
  | zero => rfl
  | succ fuel ih =>
    rw [strip]
    split
    · next h =>
      -- the last digit is a zero, so dropping it loses nothing and the exponent makes up for it
      have hdigits : s.digits = s.digits / 10 * 10 :=
        (Nat.div_mul_cancel (Nat.dvd_of_mod_eq_zero h.2)).symm
      rw [ih, value, value]
      conv_rhs => rw [hdigits]
      rw [zpow_add_one₀ (by norm_num)]
      push_cast
      ring
    · rfl

namespace Target

variable {t : Target}

theorem Contains.bounds {x : ℚ} (h : t.Contains x) :
    t.lower ≤ x ∧ x ≤ t.upper := by
  unfold Contains at h
  split at h
  · exact h
  · exact ⟨h.1.le, h.2.le⟩

theorem Contains.strict {x : ℚ} (h : t.Contains x) (hopen : t.closed = false) :
    t.lower < x ∧ x < t.upper := by
  unfold Contains at h
  rw [if_neg (by simp [hopen])] at h
  exact h

theorem point_le_iff (hscale : 0 < t.scale) (n b : Nat) (e : Int) :
    n * (ratio 10 e).1 * t.scale ≤ b * (ratio 10 e).2 ↔
      Scaled.value ⟨n, e⟩ ≤ (b : ℚ) / t.scale := by
  have hscale' : (0 : ℚ) < t.scale := Nat.cast_pos.mpr hscale
  rw [mul_right_comm, mul_comm, ratio_mul_le_iff e (by norm_num), le_div_iff₀ hscale', Scaled.value]
  push_cast
  rw [mul_right_comm, mul_comm (10 ^ e)]

theorem le_point_iff (hscale : 0 < t.scale) (n b : Nat) (e : Int) :
    b * (ratio 10 e).2 ≤ n * (ratio 10 e).1 * t.scale ↔
      (b : ℚ) / t.scale ≤ Scaled.value ⟨n, e⟩ := by
  have hscale' : (0 : ℚ) < t.scale := Nat.cast_pos.mpr hscale
  rw [mul_right_comm, mul_comm _ (ratio 10 e).1, le_ratio_mul_iff e (by norm_num),
    div_le_iff₀ hscale', Scaled.value]
  push_cast
  rw [mul_right_comm, mul_comm (10 ^ e)]

/-- The test for a decimal decides whether the decimal rounds to the double. -/
theorem accepts_iff (hscale : 0 < t.scale) (n : Nat) (e : Int) :
    t.accepts n e = true ↔ t.Contains (Scaled.value ⟨n, e⟩) := by
  unfold accepts Contains
  -- an even mantissa takes the two ends of the interval in, an odd one leaves them out
  cases t.closed with
  | true =>
    simp only [if_true, Bool.and_eq_true, decide_eq_true_eq]
    rw [le_point_iff hscale, point_le_iff hscale]
    rfl
  | false =>
    simp only [Bool.false_eq_true, if_false, Bool.and_eq_true, decide_eq_true_eq]
    rw [← not_le, ← not_le, point_le_iff hscale, le_point_iff hscale, not_le, not_le]
    rfl

/-- What is found on a grid rounds to the double. -/
theorem accepts_of_onGrid {e : Int} {s : Scaled} (h : t.onGrid e = some s) :
    t.accepts s.digits s.exponent = true := by
  unfold onGrid at h
  dsimp only at h
  split at h
  · -- both neighbours are accepted: whichever is the nearer is taken
    next hbelow habove =>
    split at h
    · obtain rfl := Option.some.inj h
      exact (Bool.and_eq_true_iff.mp hbelow).2
    · obtain rfl := Option.some.inj h
      exact habove
  · -- only the lower one is
    next hbelow _ =>
    obtain rfl := Option.some.inj h
    exact (Bool.and_eq_true_iff.mp hbelow).2
  · -- only the upper one is
    next habove =>
    obtain rfl := Option.some.inj h
    exact habove
  · exact absurd h (by simp)

theorem accepts_of_search {magnitude : Int} {fuel count : Nat} {s : Scaled}
    (h : t.search magnitude fuel count = some s) : t.accepts s.digits s.exponent = true := by
  induction fuel generalizing count with
  | zero => exact absurd h (by simp [search])
  | succ fuel ih =>
    rw [search] at h
    split at h
    · next found hfound =>
      obtain rfl := Option.some.inj h
      exact accepts_of_onGrid hfound
    · exact ih h

/-- An interval around a positive double. -/
structure Proper (t : Target) : Prop where
  /-- The lower end is positive. -/
  low_pos : 0 < t.low
  /-- The lower end is below the double. -/
  low_lt : t.low < t.value
  /-- The upper end is above the double. -/
  lt_high : t.value < t.high
  /-- The denominator is one. -/
  scale_pos : 0 < t.scale

theorem accepts_of_lt {n : Nat} {e : Int}
    (hlow : t.low * (ratio 10 e).2 < n * (ratio 10 e).1 * t.scale)
    (hhigh : n * (ratio 10 e).1 * t.scale < t.high * (ratio 10 e).2) : t.accepts n e = true := by
  unfold accepts
  cases t.closed with
  | true => simp [hlow.le, hhigh.le]
  | false => simp [hlow, hhigh]

/-- There is a decimal on the grid if one of the two next to the double is accepted. -/
theorem isSome_onGrid {e : Int} {below : Nat}
    (hbelow : t.value * (ratio 10 e).2 / ((ratio 10 e).1 * t.scale) = below) :
    (t.onGrid e).isSome =
      ((decide (0 < below) && t.accepts below e) || t.accepts (below + 1) e) := by
  unfold onGrid
  dsimp only
  rw [hbelow]
  cases decide (0 < below) && t.accepts below e <;> cases t.accepts (below + 1) e
  case true.true =>
    -- whichever of the two is nearer
    dsimp only
    split <;> rfl
  all_goals rfl

/-- A grid with a decimal inside the interval has one next to the double, which is found. -/
theorem Proper.onGrid_isSome (ht : t.Proper) {p : Nat} {e : Int}
    (hlow : t.low * (ratio 10 e).2 < p * ((ratio 10 e).1 * t.scale))
    (hhigh : p * ((ratio 10 e).1 * t.scale) < t.high * (ratio 10 e).2) :
    (t.onGrid e).isSome = true := by
  have hden : 0 < (ratio 10 e).2 := ratio_snd_pos e (by norm_num)
  have haccepts : ∀ n, t.low * (ratio 10 e).2 < n * ((ratio 10 e).1 * t.scale) →
      n * ((ratio 10 e).1 * t.scale) < t.high * (ratio 10 e).2 → t.accepts n e = true := by
    intro n hlow hhigh
    rw [← mul_assoc] at hlow hhigh
    exact accepts_of_lt hlow hhigh
  rw [isSome_onGrid rfl, Bool.or_eq_true, Bool.and_eq_true, decide_eq_true_eq]
  generalize (ratio 10 e).1 * t.scale = unit at hlow hhigh haccepts ⊢
  generalize hbelow : t.value * (ratio 10 e).2 / unit = below
  have hunit : 0 < unit := Nat.pos_of_ne_zero fun h0 => by simp [h0] at hlow
  by_cases hp : p ≤ below
  · -- the one below the double is at least as great as the one inside, and not above the double
    have hpoint : p * unit ≤ below * unit := Nat.mul_le_mul_right _ hp
    have hle : below * unit ≤ t.value * (ratio 10 e).2 := hbelow ▸ Nat.div_mul_le_self _ _
    have hpos : 0 < p := Nat.pos_of_ne_zero fun h0 => by simp [h0] at hlow
    exact .inl ⟨hpos.trans_le hp, haccepts below (hlow.trans_le hpoint)
      (hle.trans_lt (Nat.mul_lt_mul_of_pos_right ht.lt_high hden))⟩
  · have hpoint : (below + 1) * unit ≤ p * unit := Nat.mul_le_mul_right _ (not_le.mp hp)
    have hlt : t.value * (ratio 10 e).2 < (below + 1) * unit := by
      rw [← hbelow, mul_comm _ unit]
      exact Nat.lt_mul_div_succ _ hunit
    exact .inr (haccepts (below + 1)
      ((Nat.mul_lt_mul_of_pos_right ht.low_lt hden).trans hlt) (hpoint.trans_lt hhigh))

/-- A grid finer than the interval has a decimal inside it. -/
theorem Proper.onGrid_isSome_of_lt (ht : t.Proper) {e : Int}
    (h : t.low * (ratio 10 e).2 + (ratio 10 e).1 * t.scale < t.high * (ratio 10 e).2) :
    (t.onGrid e).isSome = true := by
  have hunit : 0 < (ratio 10 e).1 * t.scale :=
    Nat.mul_pos (ratio_fst_pos e (by norm_num)) ht.scale_pos
  -- the first one above the lower end
  refine ht.onGrid_isSome (p := t.low * (ratio 10 e).2 / ((ratio 10 e).1 * t.scale) + 1) ?_ ?_
  · rw [mul_comm (_ + 1)]
    exact Nat.lt_mul_div_succ _ hunit
  · refine lt_of_le_of_lt ?_ h
    rw [Nat.add_one_mul]
    exact Nat.add_le_add_right (Nat.div_mul_le_self _ _) _

theorem magnitudeFrom_le (fuel : Nat) {e : Int} (h : (10 : ℚ) ^ e * t.scale ≤ t.value) :
    (10 : ℚ) ^ t.magnitudeFrom fuel e * t.scale ≤ t.value := by
  induction fuel generalizing e with
  | zero => exact h
  | succ fuel ih =>
    rw [magnitudeFrom]
    dsimp only
    split
    · next hnext => exact ih ((ratio_mul_le_iff (e + 1) (by norm_num) _ _).mp hnext)
    · exact h

theorem search_isSome {magnitude : Int} {fuel count more : Nat} (hmore : more < fuel)
    (h : (t.onGrid (magnitude - (count + more - 1 : Nat))).isSome = true) :
    (t.search magnitude fuel count).isSome = true := by
  induction fuel generalizing count more with
  | zero => exact absurd hmore (Nat.not_lt_zero more)
  | succ fuel ih =>
    rw [search]
    split
    · rfl
    · next hnone =>
      -- the hit is further on
      cases more with
      | zero =>
        rw [Nat.add_zero, hnone] at h
        exact absurd h (by simp)
      | succ more =>
        refine ih (Nat.lt_of_succ_lt_succ hmore) ?_
        rw [Nat.add_right_comm]
        exact h

/-- If the double has less than seventeen digits in units of the interval's width, then seventeen
digits are enough. -/
theorem Proper.search_isSome (ht : t.Proper) (hwidth : t.value + t.low * 10 ^ 16 < t.high * 10 ^ 16)
    {magnitude : Int} (h : (10 : ℚ) ^ magnitude * t.scale ≤ t.value) :
    (t.search magnitude 17 1).isSome = true := by
  -- the last of the seventeen attempts already succeeds: its grid is finer than the interval is
  -- wide
  have hmore : 16 < 17 := by norm_num
  refine Target.search_isSome hmore (ht.onGrid_isSome_of_lt ?_)
  have hden : (0 : ℚ) < (ratio 10 (magnitude - (1 + 16 - 1 : Nat))).2 :=
    Nat.cast_pos.mpr (ratio_snd_pos _ (by norm_num))
  -- sixteen places below the leading digit, a unit is the magnitude over `10 ^ 16`
  have hunit : (10 : ℚ) ^ (magnitude - (1 + 16 - 1 : Nat)) * 10 ^ 16 = 10 ^ magnitude := by
    rw [← zpow_natCast, ← zpow_add₀ (by norm_num)]
    congr 1
    norm_num
  have hwidth' : (t.value : ℚ) + t.low * 10 ^ 16 < t.high * 10 ^ 16 := by exact_mod_cast hwidth
  have hfine : (t.low : ℚ) + 10 ^ (magnitude - (1 + 16 - 1 : Nat)) * t.scale < t.high := by
    rw [← hunit] at h
    linarith
  -- back to the whole numbers the search compares, both sides over one denominator
  rw [← Nat.cast_lt (α := ℚ)]
  push_cast
  rw [ratio_fst _ (by norm_num)]
  calc (t.low : ℚ) * (ratio 10 (magnitude - (1 + 16 - 1 : Nat))).2 +
        ((10 : Nat) : ℚ) ^ (magnitude - (1 + 16 - 1 : Nat)) *
          (ratio 10 (magnitude - (1 + 16 - 1 : Nat))).2 * t.scale
      = (t.low + 10 ^ (magnitude - (1 + 16 - 1 : Nat)) * t.scale) *
          (ratio 10 (magnitude - (1 + 16 - 1 : Nat))).2 := by
        push_cast
        ring
    _ < t.high * (ratio 10 (magnitude - (1 + 16 - 1 : Nat))).2 :=
        mul_lt_mul_of_pos_right hfine hden

end Target

namespace Binary

/-! ### The doubles in their order -/

/-- The positive double that comes at place `n` in the order of the doubles, zero at place zero. -/
def ofSize (n : Nat) : Binary := .ofBits (.ofNat n)

variable {n : Nat}

theorem ofSize_eq (h : n < 0x8000000000000000) :
    ofSize n =
      if n / 0x10000000000000 = 0 then ⟨n % 0x10000000000000, -1074, false⟩
      else ⟨0x10000000000000 + n % 0x10000000000000, (n / 0x10000000000000 : Nat) - 1075,
        n % 0x10000000000000 = 0 && 1 < n / 0x10000000000000⟩ := by
  have hn : (UInt64.ofNat n).toNat = n := UInt64.toNat_ofNat_of_lt (Nat.lt_trans h (by decide))
  have hbiased : n / 0x10000000000000 % 0x800 = n / 0x10000000000000 := by omega
  unfold ofSize ofBits
  dsimp only
  rw [hn, hbiased]

theorem mantissa_pos (h0 : 0 < n) (h : n < 0x8000000000000000) : 0 < (ofSize n).mantissa := by
  rw [ofSize_eq h]
  split
  · change 0 < n % 0x10000000000000
    omega
  · change 0 < 0x10000000000000 + n % 0x10000000000000
    omega

theorem mantissa_lt (h : n < 0x8000000000000000) : (ofSize n).mantissa < 2 ^ 53 := by
  rw [ofSize_eq h]
  split
  · change n % 0x10000000000000 < 2 ^ 53
    omega
  · change 0x10000000000000 + n % 0x10000000000000 < 2 ^ 53
    omega

/-- Only a power of two is nearer to the double below it. -/
theorem mantissa_of_narrowBelow (h : n < 0x8000000000000000)
    (hnarrow : (ofSize n).narrowBelow = true) : (ofSize n).mantissa = 2 ^ 52 := by
  rw [ofSize_eq h] at hnarrow ⊢
  split at hnarrow
  · exact absurd hnarrow (by simp)
  · -- the interval is narrow below a power of two, where the fraction is zero
    next hbiased =>
    rw [if_neg hbiased]
    change (decide (n % 0x10000000000000 = 0) && decide _) = true at hnarrow
    simp only [Bool.and_eq_true, decide_eq_true_eq] at hnarrow
    change 0x10000000000000 + n % 0x10000000000000 = 2 ^ 52
    omega

theorem le_exponent (h : n < 0x8000000000000000) : -1074 ≤ (ofSize n).exponent := by
  rw [ofSize_eq h]
  split
  · exact le_refl _
  · change (-1074 : Int) ≤ (n / 0x10000000000000 : Nat) - 1075
    omega

/-- Every second double has an even mantissa. -/
theorem mantissa_mod_two (h : n < 0x8000000000000000) : (ofSize n).mantissa % 2 = n % 2 := by
  rw [ofSize_eq h]
  split
  · change n % 0x10000000000000 % 2 = n % 2
    omega
  · change (0x10000000000000 + n % 0x10000000000000) % 2 = n % 2
    omega

/-- The next double has the next mantissa or, behind the greatest mantissa, the next exponent. -/
theorem ofSize_succ (h : n + 1 < 0x8000000000000000) :
    ((ofSize (n + 1)).mantissa = (ofSize n).mantissa + 1 ∧
        (ofSize (n + 1)).exponent = (ofSize n).exponent ∧ (ofSize (n + 1)).narrowBelow = false) ∨
      ((ofSize n).mantissa = 2 ^ 53 - 1 ∧ (ofSize (n + 1)).mantissa = 2 ^ 52 ∧
        (ofSize (n + 1)).exponent = (ofSize n).exponent + 1 ∧
        (ofSize (n + 1)).narrowBelow = true) := by
  rw [ofSize_eq h, ofSize_eq (Nat.lt_of_succ_lt h)]
  by_cases hfull : n % 0x10000000000000 = 0xfffffffffffff
  · -- the fraction is full: the carry goes into the exponent and the mantissa starts over
    have hquot : (n + 1) / 0x10000000000000 = n / 0x10000000000000 + 1 := by omega
    have hrem : (n + 1) % 0x10000000000000 = 0 := by omega
    rw [hquot, hrem, if_neg (Nat.succ_ne_zero _)]
    by_cases hbiased : n / 0x10000000000000 = 0
    · simp [hbiased, hfull]
    · simp [hbiased, hfull]
      omega
  · -- otherwise only the fraction grows
    have hquot : (n + 1) / 0x10000000000000 = n / 0x10000000000000 := by omega
    have hrem : (n + 1) % 0x10000000000000 = n % 0x10000000000000 + 1 := by omega
    rw [hquot, hrem]
    by_cases hbiased : n / 0x10000000000000 = 0
    · simp [hbiased]
    · simp [hbiased]
      omega

/-! ### Their intervals -/

variable {b : Binary}

theorem proper_target (h : 0 < b.mantissa) : b.target.Proper := by
  have hnum : 0 < (ratio 2 (b.exponent - 2)).1 := ratio_fst_pos _ (by norm_num)
  refine ⟨Nat.mul_pos ?_ hnum, Nat.mul_lt_mul_of_pos_right ?_ hnum,
    Nat.mul_lt_mul_of_pos_right (by omega) hnum, ratio_snd_pos _ (by norm_num)⟩
  · split <;> omega
  · split <;> omega

theorem lower_target (h : 0 < b.mantissa) :
    b.target.lower =
      (4 * b.mantissa - (if b.narrowBelow then 1 else 2)) * 2 ^ (b.exponent - 2) := by
  have hden : ((ratio 2 (b.exponent - 2)).2 : ℚ) ≠ 0 :=
    Nat.cast_ne_zero.mpr (ratio_snd_pos _ (by norm_num)).ne'
  change (((4 * b.mantissa - (if b.narrowBelow then 1 else 2)) *
    (ratio 2 (b.exponent - 2)).1 : Nat) : ℚ) / (ratio 2 (b.exponent - 2)).2 = _
  -- the mantissa is positive, so the subtraction of naturals does not stop at zero
  have hle : (if b.narrowBelow then 1 else 2) ≤ 4 * b.mantissa := by split <;> omega
  rw [Nat.cast_mul, ratio_fst _ (by norm_num), Nat.cast_sub hle, ← mul_assoc,
    mul_div_cancel_right₀ _ hden]
  push_cast
  rfl

theorem upper_target : b.target.upper = (4 * b.mantissa + 2) * 2 ^ (b.exponent - 2) := by
  have hden : ((ratio 2 (b.exponent - 2)).2 : ℚ) ≠ 0 :=
    Nat.cast_ne_zero.mpr (ratio_snd_pos _ (by norm_num)).ne'
  change (((4 * b.mantissa + 2) * (ratio 2 (b.exponent - 2)).1 : Nat) : ℚ) /
    (ratio 2 (b.exponent - 2)).2 = _
  rw [Nat.cast_mul, ratio_fst _ (by norm_num), ← mul_assoc, mul_div_cancel_right₀ _ hden]
  push_cast
  rfl

/-- No double takes seventeen digits in units of its interval's width. -/
theorem value_lt_width (h0 : 0 < n) (h : n < 0x8000000000000000) :
    (ofSize n).target.value + (ofSize n).target.low * 10 ^ 16 <
      (ofSize n).target.high * 10 ^ 16 := by
  have hpos := mantissa_pos h0 h
  have hlt := mantissa_lt h
  have hnarrow := mantissa_of_narrowBelow h
  have hnum : 0 < (ratio 2 ((ofSize n).exponent - 2)).1 := ratio_fst_pos _ (by norm_num)
  change 4 * (ofSize n).mantissa * (ratio 2 ((ofSize n).exponent - 2)).1 +
    (4 * (ofSize n).mantissa - (if (ofSize n).narrowBelow then 1 else 2)) *
      (ratio 2 ((ofSize n).exponent - 2)).1 * 10 ^ 16 <
    (4 * (ofSize n).mantissa + 2) * (ratio 2 ((ofSize n).exponent - 2)).1 * 10 ^ 16
  -- only the mantissa is left to bound: the power of two is a common factor
  generalize (ratio 2 ((ofSize n).exponent - 2)).1 = num at hnum ⊢
  generalize (ofSize n).mantissa = m at *
  -- half a unit of `2 ^ 53` is still more than one part in `10 ^ 16`
  have hunits : 4 * m + (4 * m - (if (ofSize n).narrowBelow then 1 else 2)) * 10 ^ 16 <
      (4 * m + 2) * 10 ^ 16 := by
    cases hb : (ofSize n).narrowBelow with
    | true =>
      obtain rfl := hnarrow hb
      simp
    | false =>
      simp only [Bool.false_eq_true, if_false]
      omega
  calc 4 * m * num + (4 * m - (if (ofSize n).narrowBelow then 1 else 2)) * num * 10 ^ 16
      = (4 * m + (4 * m - (if (ofSize n).narrowBelow then 1 else 2)) * 10 ^ 16) * num := by ring
    _ < (4 * m + 2) * 10 ^ 16 * num := Nat.mul_lt_mul_of_pos_right hunits hnum
    _ = (4 * m + 2) * num * 10 ^ 16 := by ring

/-- No positive double is smaller than the power of ten at which the search starts. -/
theorem le_value (h0 : 0 < n) (h : n < 0x8000000000000000) :
    (10 : ℚ) ^ (-330 : Int) * (ofSize n).target.scale ≤ (ofSize n).target.value := by
  have hpos : (1 : ℚ) ≤ (ofSize n).mantissa := by exact_mod_cast mantissa_pos h0 h
  have hexp : -1074 ≤ (ofSize n).exponent := le_exponent h
  have hfour : (4 : ℚ) = 2 ^ (2 : Int) := by norm_num
  have hscale : (0 : ℚ) ≤ (ratio 2 ((ofSize n).exponent - 2)).2 := Nat.cast_nonneg _
  change (10 : ℚ) ^ (-330 : Int) * ((ratio 2 ((ofSize n).exponent - 2)).2 : ℚ) ≤
    ((4 * (ofSize n).mantissa * (ratio 2 ((ofSize n).exponent - 2)).1 : Nat) : ℚ)
  rw [Nat.cast_mul, Nat.cast_mul, ratio_fst _ (by norm_num), Nat.cast_ofNat, Nat.cast_ofNat,
    ← mul_assoc]
  refine mul_le_mul_of_nonneg_right ?_ hscale
  -- the smallest double is `2 ^ -1074`, and five times `10 ^ -66 ≤ 2 ^ -215` reaches below it
  calc (10 : ℚ) ^ (-330 : Int)
      = (10 ^ (-66 : Int)) ^ (5 : Int) := by rw [← zpow_mul]; rfl
    _ ≤ (2 ^ (-215 : Int)) ^ (5 : Int) :=
      zpow_le_zpow_left₀ (by norm_num) (by positivity) (by norm_num)
    _ = 2 ^ (-1075 : Int) := by rw [← zpow_mul]; rfl
    _ ≤ 2 ^ (ofSize n).exponent := zpow_le_zpow_right₀ (by norm_num) (by omega)
    _ ≤ (ofSize n).mantissa * 2 ^ (ofSize n).exponent :=
      le_mul_of_one_le_left (zpow_nonneg (by norm_num) _) hpos
    _ = 4 * (ofSize n).mantissa * 2 ^ ((ofSize n).exponent - 2) := by
      rw [hfour, mul_right_comm, ← zpow_add₀ (by norm_num), mul_comm]
      congr 2
      omega

/-- The interval of a double ends where that of the next one begins. -/
theorem upper_eq_lower (h : n + 1 < 0x8000000000000000) :
    (ofSize n).target.upper = (ofSize (n + 1)).target.lower := by
  rw [upper_target, lower_target (mantissa_pos (Nat.succ_pos n) h)]
  rcases ofSize_succ h with ⟨hmantissa, hexponent, hnarrow⟩ | ⟨hfull, hmantissa, hexponent, hnarrow⟩
  · rw [hmantissa, hexponent, hnarrow]
    push_cast
    ring
  · -- the next double is a power of two
    rw [hfull, hmantissa, hexponent, hnarrow, if_pos rfl, add_sub_right_comm,
      zpow_add_one₀ (by norm_num)]
    push_cast
    ring

theorem lower_lt_upper (h0 : 0 < n) (h : n < 0x8000000000000000) :
    (ofSize n).target.lower < (ofSize n).target.upper := by
  have hproper := proper_target (mantissa_pos h0 h)
  have hscale : (0 : ℚ) < (ofSize n).target.scale := Nat.cast_pos.mpr hproper.scale_pos
  exact div_lt_div_of_pos_right (Nat.cast_lt.mpr (hproper.low_lt.trans hproper.lt_high)) hscale

theorem upper_le_lower {m : Nat} (hmn : m < n) (h : n < 0x8000000000000000) :
    (ofSize m).target.upper ≤ (ofSize n).target.lower := by
  induction n, hmn using Nat.le_induction with
  | base => exact (upper_eq_lower h).le
  | succ n hn ih =>
    have hbefore : n < 0x8000000000000000 := Nat.lt_of_succ_lt h
    have hpos : 0 < n := Nat.lt_of_lt_of_le (Nat.succ_pos m) hn
    calc (ofSize m).target.upper ≤ (ofSize n).target.lower := ih hbefore
      _ ≤ (ofSize n).target.upper := (lower_lt_upper hpos hbefore).le
      _ = (ofSize (n + 1)).target.lower := upper_eq_lower h

theorem closed_target (h : n < 0x8000000000000000) :
    (ofSize n).target.closed = (n % 2 == 0) := by
  change ((ofSize n).mantissa % 2 == 0) = _
  rw [mantissa_mod_two h]

/-- No number rounds to two doubles: where two intervals meet, one of them is open. -/
theorem not_contains_of_lt {m : Nat} {x : ℚ} (hmn : m < n) (h : n < 0x8000000000000000)
    (hm : (ofSize m).target.Contains x) : ¬(ofSize n).target.Contains x := by
  intro hn
  have hle := upper_le_lower hmn h
  have hupper := hm.bounds.2
  have hlower := hn.bounds.1
  by_cases hnext : n = m + 1
  · by_cases heven : m % 2 = 0
    · have hopen : (ofSize n).target.closed = false := by
        rw [closed_target h]
        simp
        omega
      have hstrict := (hn.strict hopen).1
      linarith
    · have hopen : (ofSize m).target.closed = false := by
        rw [closed_target (hmn.trans h)]
        simp
        omega
      have hstrict := (hm.strict hopen).2
      linarith
  · -- there is a double between them
    have hgap : m + 1 < n := by omega
    have hbefore := lower_lt_upper (Nat.succ_pos m) (hgap.trans h)
    have hafter := upper_le_lower hgap h
    rw [← upper_eq_lower (hgap.trans h)] at hbefore
    linarith

end Binary

/-! ### One decimal, one double -/

open Binary

variable {m n : Nat}

/-- **The shortest decimal of a double rounds to it.** -/
theorem contains_shortest (h0 : 0 < n) (h : n < 0x8000000000000000) :
    (ofSize n).target.Contains (shortest (.ofNat n)).value := by
  have hproper := proper_target (mantissa_pos h0 h)
  have hmagnitude := Target.magnitudeFrom_le 700 (le_value h0 h)
  -- the search comes to a hit, and a hit is accepted
  obtain ⟨found, hfound⟩ := Option.isSome_iff_exists.mp
    (hproper.search_isSome (value_lt_width h0 h) hmagnitude)
  have haccepted := Target.accepts_of_search hfound
  rw [Target.accepts_iff hproper.scale_pos] at haccepted
  have hshortest : shortest (.ofNat n) = found.strip 20 := by
    unfold shortest
    rw [← ofSize]
    dsimp only
    rw [hfound]
  rw [hshortest, Scaled.value_strip]
  exact haccepted

theorem shortest_pos (h0 : 0 < n) (h : n < 0x8000000000000000) :
    0 < (shortest (.ofNat n)).value := by
  have hproper := proper_target (mantissa_pos h0 h)
  have hlower : 0 < (ofSize n).target.lower :=
    div_pos (Nat.cast_pos.mpr hproper.low_pos) (Nat.cast_pos.mpr hproper.scale_pos)
  exact hlower.trans_le (contains_shortest h0 h).bounds.1

/-- **A decimal is the shortest one of one double only.** -/
theorem shortest_injective (hm0 : 0 < m) (hm : m < 0x8000000000000000) (hn0 : 0 < n)
    (hn : n < 0x8000000000000000)
    (h : (shortest (.ofNat m)).value = (shortest (.ofNat n)).value) : m = n := by
  have hcm := contains_shortest hm0 hm
  have hcn := contains_shortest hn0 hn
  rw [h] at hcm
  rcases Nat.lt_trichotomy m n with hlt | heq | hgt
  · exact absurd hcn (not_contains_of_lt hlt hn hcm)
  · exact heq
  · exact absurd hcm (not_contains_of_lt hgt hm hcn)

end VisualQuery.Decimal
