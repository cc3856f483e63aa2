import VisualQuery.Uuid

/-!
# The text of an identifier is read back

An identifier is written as 32 hexadecimal digits in five groups. The reader takes the hyphens out
again, by their places, and adds the digits up. Both work on lists whose lengths are known, so the
groups are put together again by `take` and `drop`, and the digits by one division a step.
-/

namespace VisualQuery

namespace Text

theorem length_hexDigits (count n : Nat) : (hexDigits count n).length = count := by
  induction count generalizing n with
  | zero => rfl
  | succ count ih => rw [hexDigits, List.length_append, ih, List.length_singleton]

theorem ofHexDigits?_append_singleton (cs : List Char) (c : Char) :
    ofHexDigits? (cs ++ [c]) =
      (ofHexDigits? cs).bind fun n => (hexValue? c).map (16 * n + ·) := by
  simp [ofHexDigits?, List.foldlM_append]

/-- Digits that are enough for a number give the number. -/
theorem ofHexDigits?_hexDigits {count n : Nat} (h : n < Nat.pow 16 count) :
    ofHexDigits? (hexDigits count n) = some n := by
  induction count generalizing n with
  | zero =>
    obtain rfl : n = 0 := Nat.lt_one_iff.mp h
    rfl
  | succ count ih =>
    have hhigh : n / 16 < Nat.pow 16 count := Nat.div_lt_of_lt_mul (Nat.mul_comm _ _ ▸ h)
    rw [hexDigits, ofHexDigits?_append_singleton, ih hhigh, Option.bind_some,
      hexValue?_hexDigit (Nat.mod_lt n (by decide)), Option.map_some, Nat.div_add_mod]

end Text

namespace Uuid

/-- The hyphens stand at the places at which they are looked for. -/
theorem ungroup?_groups {a b c d e : List Char} (ha : a.length = 8) (hb : b.length = 4)
    (hc : c.length = 4) (hd : d.length = 4) (he : e.length = 12) :
    ungroup? (a ++ '-' :: b ++ '-' :: c ++ '-' :: d ++ '-' :: e) =
      some (a ++ b ++ c ++ d ++ e) := by
  unfold ungroup?
  simp (disch := omega) [List.getElem?_append_right, List.drop_append, List.drop_of_length_le, ha,
    hb, hc, hd, he]
  -- each hyphen is the head of what is left at its place
  exact ⟨rfl, rfl, rfl, rfl⟩

/-- Five groups make up the list that they are taken from. -/
theorem groups_append (ds : List Char) :
    ds.take 8 ++ (ds.drop 8).take 4 ++ (ds.drop 12).take 4 ++ (ds.drop 16).take 4 ++ ds.drop 20 =
      ds := by
  have hstep : ∀ i, (ds.drop i).take 4 ++ ds.drop (i + 4) = ds.drop i := by
    intro i
    rw [← List.drop_drop, List.take_append_drop]
  rw [List.append_assoc, List.append_assoc, List.append_assoc, hstep 16, hstep 12, hstep 8,
    List.take_append_drop]

/-- **The text of an identifier is read back as the identifier.** -/
theorem ofText?_text (u : Uuid) : ofText? u.text = some u := by
  let ds := Text.hexDigits 32 u.toNat
  have hds : ds.length = 32 := Text.length_hexDigits 32 u.toNat
  have hbits : u.toNat < Nat.pow 16 32 := u.bits.isLt
  -- cut into groups of 8, 4, 4, 4 and 12 digits and put together again
  have hgroups : ungroup? u.text = some ds := by
    have hungroup := ungroup?_groups (a := ds.take 8) (b := (ds.drop 8).take 4)
      (c := (ds.drop 12).take 4) (d := (ds.drop 16).take 4) (e := ds.drop 20)
      (by simp [hds]) (by simp [hds]) (by simp [hds]) (by simp [hds]) (by simp [hds])
    rw [groups_append] at hungroup
    exact hungroup
  -- only the grouped form has 36 characters, so the reader takes that branch
  have hlength : u.text.length = 36 := by
    unfold ungroup? at hgroups
    split at hgroups
    · next h => exact h.1
    · exact absurd hgroups (by simp)
  have hdigits : ofDigits? ds = some u := by
    unfold ofDigits?
    rw [if_pos hds, Text.ofHexDigits?_hexDigits hbits, Option.map_some, ofNat, toNat,
      BitVec.ofNat_toNat, BitVec.setWidth_eq]
  unfold ofText?
  rw [if_neg (by omega), if_pos hlength, ofGroups?, hgroups, Option.bind_some, hdigits]

end Uuid

end VisualQuery
