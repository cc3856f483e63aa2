import VisualQuery.Proofs.Json.NumberText
import VisualQuery.Proofs.Json.ReadBack

/-!
# A compact text tells the value

Two values with the same compact text are the same data (`same_of_compact_eq`). The first character
tells the shape of a value (`compactChars_opens`). What follows is taken apart by induction on the
value, with any text behind it that stops a number: inside a list or an object that is a comma or a
bracket, and no value begins with one of these.
-/

namespace VisualQuery.Json

open Reader

/-! ### How a compact text begins -/

/-- The shapes of values. -/
inductive Shape where
  /-- The value `null`. -/
  | null
  /-- A truth value. -/
  | bool
  /-- A number. -/
  | number
  /-- A text. -/
  | text
  /-- A list. -/
  | array
  /-- An object. -/
  | object
deriving DecidableEq, Repr

/-- The shape of a value. -/
def shape : Json → Shape
  | .null => .null
  | .bool _ => .bool
  | .number _ => .number
  | .text _ => .text
  | .array _ => .array
  | .object _ => .object

/-- The shape of the values that begin with a character. -/
def Shape.ofLead? (c : Char) : Option Shape :=
  if c = 'n' then some .null
  else if c = 't' ∨ c = 'f' then some .bool
  else if c = '-' ∨ Decimal.isDigit c = true then some .number
  else if c = '"' then some .text
  else if c = '[' then some .array
  else if c = '\x7b' then some .object
  else none

theorem Shape.ofLead?_of_number {c : Char} (h : c = '-' ∨ Decimal.isDigit c = true) :
    ofLead? c = some .number := by
  have hletter : c ≠ 'n' ∧ ¬(c = 't' ∨ c = 'f') := by
    refine ⟨?_, ?_⟩
    · rintro rfl
      exact absurd h (by decide)
    · rintro (rfl | rfl) <;> exact absurd h (by decide)
  rw [ofLead?, if_neg hletter.1, if_neg hletter.2, if_pos h]

/-- The first character tells the shape. -/
theorem compactChars_opens (v : Json) :
    ∃ c cs, v.compactChars = c :: cs ∧ Shape.ofLead? c = some v.shape := by
  match v with
  | .null => exact ⟨'n', _, by rw [compactChars], rfl⟩
  | .bool true => exact ⟨'t', _, by rw [compactChars]; rfl, rfl⟩
  | .bool false => exact ⟨'f', _, by rw [compactChars]; rfl, rfl⟩
  | .number n =>
    obtain ⟨c, cs, h, hc⟩ := n.text_opens
    exact ⟨c, cs, by rw [compactChars, h], Shape.ofLead?_of_number hc⟩
  | .text s => exact ⟨'"', _, by rw [compactChars]; rfl, rfl⟩
  | .array vs => exact ⟨'[', _, by rw [compactChars]; rfl, rfl⟩
  | .object ms => exact ⟨'\x7b', _, by rw [compactChars]; rfl, rfl⟩

theorem ofLead?_head {v : Json} {r : List Char} {c : Char} {cs : List Char}
    (h : v.compactChars ++ r = c :: cs) : Shape.ofLead? c = some v.shape := by
  obtain ⟨d, ds, hds, hshape⟩ := v.compactChars_opens
  rw [hds, List.cons_append] at h
  rw [← (List.cons.inj h).1]
  exact hshape

theorem shape_eq_of_append {v w : Json} {r r' : List Char}
    (h : v.compactChars ++ r = w.compactChars ++ r') : v.shape = w.shape := by
  obtain ⟨c, cs, hcs, hshape⟩ := w.compactChars_opens
  have hv := ofLead?_head (h.trans (by rw [hcs, List.cons_append]))
  exact Option.some.inj (hv.symm.trans hshape)

/-! ### Texts -/

/-- Texts that are written alike are the same, and so is what is behind them. -/
theorem textBetweenQuotes_append_inj {s s' : String} {r r' : List Char}
    (h : textBetweenQuotes s ++ r = textBetweenQuotes s' ++ r') : s = s' ∧ r = r' := by
  have hbody : s.toList.flatMap escapedChar ++ '"' :: r =
      s'.toList.flatMap escapedChar ++ '"' :: r' := by
    unfold textBetweenQuotes at h
    simpa using h
  have hread := textBody_escaped s r
  rw [hbody, textBody_escaped s' r'] at hread
  obtain ⟨hs, hr⟩ := Prod.mk.inj (Except.ok.inj hread)
  exact ⟨hs.symm, hr.symm⟩

/-! ### Values -/

/-- Elements end at a bracket, with which no value begins, or at a comma. -/
theorem stops_compactElements (vs : List Json) (r : List Char) :
    Stops (compactElements false vs ++ ']' :: r) := by
  cases vs with
  | nil => exact .cons (by decide) _
  | cons v vs =>
    rw [compactElements]
    exact .cons (by decide) _

theorem stops_compactMembers (ms : List (String × Json)) (r : List Char) :
    Stops (compactMembers false ms ++ '\x7d' :: r) := by
  cases ms with
  | nil => exact .cons (by decide) _
  | cons m ms =>
    obtain ⟨name, v⟩ := m
    rw [compactMembers]
    exact .cons (by decide) _

/-- No written element is the end of a list. -/
theorem compactElements_cons_ne (first : Bool) (v : Json) (vs : List Json) (r r' : List Char) :
    compactElements first (v :: vs) ++ r ≠ ']' :: r' := by
  intro h
  rw [compactElements, List.append_assoc, List.append_assoc] at h
  cases first with
  | true => exact absurd (ofLead?_head h) (by simp [Shape.ofLead?, Decimal.isDigit])
  | false => exact absurd (List.cons.inj h).1 (by decide)

/-- No written member is the end of an object. -/
theorem compactMembers_cons_ne (first : Bool) (m : String × Json) (ms : List (String × Json))
    (r r' : List Char) : compactMembers first (m :: ms) ++ r ≠ '\x7d' :: r' := by
  intro h
  obtain ⟨name, v⟩ := m
  rw [compactMembers] at h
  cases first with
  | true => exact absurd (List.cons.inj h).1 (by decide)
  | false => exact absurd (List.cons.inj h).1 (by decide)

mutual

/-- **Values that are written alike are the same**, and so is what is behind them. -/
theorem same_of_compactChars_append : (v w : Json) → {r r' : List Char} → Stops r → Stops r' →
    v.compactChars ++ r = w.compactChars ++ r' → v.same w = true ∧ r = r'
  | .null, w, _, _, _, _, h => by
    cases w with
    | null =>
      rw [compactChars] at h
      exact ⟨by rw [same], List.append_cancel_left h⟩
    | _ => exact absurd (shape_eq_of_append h) (by simp [shape])
  | .bool a, w, _, _, _, _, h => by
    cases w with
    | bool b =>
      rw [compactChars, compactChars] at h
      cases a <;> cases b <;> simp_all [boolText, same]
    | _ => exact absurd (shape_eq_of_append h) (by simp [shape])
  -- a number ends where a character stands that no number has, hence `Stops`
  | .number m, w, _, _, hr, hr', h => by
    cases w with
    | number n =>
      rw [compactChars, compactChars] at h
      rw [same]
      exact Number.same_of_text_append hr hr' h
    | _ => exact absurd (shape_eq_of_append h) (by simp [shape])
  | .text s, w, _, _, _, _, h => by
    cases w with
    | text s' =>
      rw [compactChars, compactChars] at h
      obtain ⟨rfl, hrest⟩ := textBetweenQuotes_append_inj h
      exact ⟨by rw [same, beq_self_eq_true], hrest⟩
    | _ => exact absurd (shape_eq_of_append h) (by simp [shape])
  -- brackets and quotes delimit themselves, so nothing is asked of what follows
  | .array vs, w, _, _, _, _, h => by
    cases w with
    | array ws =>
      rw [compactChars, compactChars] at h
      rw [same]
      exact same_of_compactElements_append vs ws true (by simpa using h)
    | _ => exact absurd (shape_eq_of_append h) (by simp [shape])
  | .object ms, w, _, _, _, _, h => by
    cases w with
    | object ns =>
      rw [compactChars, compactChars] at h
      rw [same]
      exact same_of_compactMembers_append ms ns true (by simpa using h)
    | _ => exact absurd (shape_eq_of_append h) (by simp [shape])

theorem same_of_compactElements_append : (vs ws : List Json) → (first : Bool) →
    {r r' : List Char} →
    compactElements first vs ++ ']' :: r = compactElements first ws ++ ']' :: r' →
    sameElements vs ws = true ∧ r = r'
  | [], [], _, _, _, h => ⟨by rw [sameElements], (List.cons.inj h).2⟩
  | [], w :: ws, first, r, _, h => absurd h.symm (compactElements_cons_ne first w ws _ r)
  | v :: vs, [], first, _, r', h => absurd h (compactElements_cons_ne first v vs _ r')
  | v :: vs, w :: ws, first, r, r', h => by
    rw [compactElements, compactElements, List.append_assoc, List.append_assoc, List.append_assoc,
      List.append_assoc] at h
    -- an element is followed by a comma or by the bracket, and no number goes on there
    obtain ⟨hhead, hrest⟩ := same_of_compactChars_append v w (stops_compactElements vs r)
      (stops_compactElements ws r') (List.append_cancel_left h)
    obtain ⟨htail, hrest⟩ := same_of_compactElements_append vs ws false hrest
    exact ⟨by rw [sameElements, hhead, htail, Bool.and_self], hrest⟩

theorem same_of_compactMembers_append : (ms ns : List (String × Json)) → (first : Bool) →
    {r r' : List Char} →
    compactMembers first ms ++ '\x7d' :: r = compactMembers first ns ++ '\x7d' :: r' →
    sameMembers ms ns = true ∧ r = r'
  | [], [], _, _, _, h => ⟨by rw [sameMembers], (List.cons.inj h).2⟩
  | [], n :: ns, first, r, _, h => absurd h.symm (compactMembers_cons_ne first n ns _ r)
  | m :: ms, [], first, _, r', h => absurd h (compactMembers_cons_ne first m ms _ r')
  | (name, v) :: ms, (name', w) :: ns, first, r, r', h => by
    simp only [compactMembers, List.append_assoc, List.cons_append] at h
    obtain ⟨hname, hcolon⟩ := textBetweenQuotes_append_inj (List.append_cancel_left h)
    obtain ⟨hhead, hrest⟩ := same_of_compactChars_append v w (stops_compactMembers ms r)
      (stops_compactMembers ns r') (List.cons.inj hcolon).2
    obtain ⟨htail, hrest⟩ := same_of_compactMembers_append ms ns false hrest
    exact ⟨by rw [sameMembers, hname, hhead, htail, beq_self_eq_true]; rfl, hrest⟩

end

/-- **The compact text tells the value.** -/
theorem same_of_compact_eq {v w : Json} (h : v.compact = w.compact) : v.same w = true := by
  have hchars : v.compactChars = w.compactChars := String.ofList_injective h
  refine (same_of_compactChars_append v w .nil .nil ?_).1
  rw [List.append_nil, List.append_nil]
  exact hchars

end VisualQuery.Json
