import Mathlib.Data.List.Forall2
import VisualQuery.Json.Record
import VisualQuery.Proofs.Json.Scalars

/-!
# Written values are read back

`ReadsBack r v a` says what it is for a reader `r` to undo the writing of `v`: wherever `v` stands
in a text, on whichever level it is indented and whatever spaces are in front, `r` gives `a` and
leaves what is behind. It is asked for any rest that stops a number, so the readers of parts can be
put together: behind an element or a member stands a comma, a line break or a bracket.

The loops over elements and members are counted down from the length of the text, of which every
round takes at least one character (`length_le_indentedElements`), so they do not run out.

A free-form value is read back if no number in it is a double and it is nested no deeper than the
reader goes (`readsBack_value`).
-/

namespace VisualQuery.Json

/-! ### Depth and doubles -/

mutual

/-- How deep lists and objects are nested in a value. -/
def depth : Json → Nat
  | .array elements => depthOfElements elements + 1
  | .object members => depthOfMembers members + 1
  | _ => 0

/-- The depth of the deepest of some values. -/
def depthOfElements : List Json → Nat
  | [] => 0
  | v :: rest => max v.depth (depthOfElements rest)

/-- The depth of the deepest of some members. -/
def depthOfMembers : List (String × Json) → Nat
  | [] => 0
  | (_, v) :: rest => max v.depth (depthOfMembers rest)

end

mutual

/-- Whether no number in a value is a double. -/
def isFloatFree : Json → Bool
  | .number (.double _) => false
  | .array elements => areFloatFree elements
  | .object members => haveNoFloat members
  | _ => true

/-- Whether no number in some values is a double. -/
def areFloatFree : List Json → Bool
  | [] => true
  | v :: rest => v.isFloatFree && areFloatFree rest

/-- Whether no number in some members is a double. -/
def haveNoFloat : List (String × Json) → Bool
  | [] => true
  | (_, v) :: rest => v.isFloatFree && haveNoFloat rest

end

/-! ### How a written value begins -/

namespace Number

theorem scaledText_opens (s : Decimal.Scaled) :
    ∃ c cs, scaledText s = c :: cs ∧ Decimal.isDigit c = true := by
  obtain ⟨c, ds, hds⟩ := List.exists_cons_of_ne_nil (Decimal.digits_ne_nil s.digits)
  have hc : Decimal.isDigit c = true := Decimal.isDigit_of_mem_digits (hds ▸ List.mem_cons_self)
  unfold scaledText
  simp only [hds]
  split
  · exact ⟨c, _, rfl, hc⟩
  split
  · -- the point stands behind a digit
    next hpoint =>
    obtain ⟨n, hn⟩ := Int.eq_succ_of_zero_lt hpoint.1
    rw [hn]
    exact ⟨c, _, rfl, hc⟩
  split
  · exact ⟨'0', _, rfl, rfl⟩
  · exact ⟨c, _, rfl, hc⟩

/-- A number begins with its sign or with a digit. -/
theorem text_opens (n : Number) :
    ∃ c cs, n.text = c :: cs ∧ (c = '-' ∨ Decimal.isDigit c = true) := by
  cases n with
  | whole w =>
    -- there is a first digit, and a sign before it or none
    obtain ⟨c, ds, hds⟩ := List.exists_cons_of_ne_nil (Decimal.digits_ne_nil w.val.natAbs)
    have hc : Decimal.isDigit c = true := Decimal.isDigit_of_mem_digits (hds ▸ List.mem_cons_self)
    show ∃ d cs, Decimal.intDigits w.val = d :: cs ∧ _
    rw [Decimal.intDigits_eq, hds]
    split
    · exact ⟨'-', _, rfl, .inl rfl⟩
    · exact ⟨c, _, rfl, .inr hc⟩
  | double bits =>
    show ∃ d cs, doubleText bits = d :: cs ∧ _
    unfold doubleText
    split
    · split
      · exact ⟨'0', _, rfl, .inr rfl⟩
      · obtain ⟨c, cs, h, hc⟩ := scaledText_opens (Decimal.shortest (UInt64.ofNat (size bits)))
        exact ⟨c, cs, h, .inr hc⟩
    · exact ⟨'-', _, rfl, .inl rfl⟩

end Number

/-- A character that a value begins with. -/
structure IsOpening (c : Char) : Prop where
  /-- It is no space. -/
  visible : Reader.isSpace c = false
  /-- It does not end a list. -/
  notEnd : c ≠ ']'

theorem IsOpening.of_number {c : Char} (h : c = '-' ∨ Decimal.isDigit c = true) : IsOpening c where
  visible := by
    rcases h with rfl | h
    · rfl
    · refine Bool.eq_false_iff.mpr fun hspace => ?_
      have hcases : c = ' ' ∨ c = '\n' ∨ c = '\t' ∨ c = '\r' := by
        simpa [Reader.isSpace, or_assoc] using hspace
      rcases hcases with rfl | rfl | rfl | rfl <;> exact absurd h (by decide)
  notEnd := by
    rintro rfl
    exact absurd h (by decide)

/-- A value begins with a character of its own; only `null` begins with an `n`. -/
theorem indentedChars_opens (v : Json) (level : Nat) :
    ∃ c cs, v.indentedChars level = c :: cs ∧ IsOpening c ∧ (c = 'n' → v = .null) := by
  match v with
  | .null => exact ⟨'n', _, by rw [indentedChars], ⟨rfl, by decide⟩, fun _ => rfl⟩
  | .bool true =>
    exact ⟨'t', _, by rw [indentedChars]; rfl, ⟨rfl, by decide⟩, (absurd · (by decide))⟩
  | .bool false =>
    exact ⟨'f', _, by rw [indentedChars]; rfl, ⟨rfl, by decide⟩, (absurd · (by decide))⟩
  | .number n =>
    obtain ⟨c, cs, h, hc⟩ := n.text_opens
    refine ⟨c, cs, by rw [indentedChars, h], .of_number hc, ?_⟩
    rintro rfl
    exact absurd hc (by decide)
  | .text s => exact ⟨'"', _, by rw [indentedChars]; rfl, ⟨rfl, by decide⟩, (absurd · (by decide))⟩
  | .array [] => exact ⟨'[', _, by rw [indentedChars], ⟨rfl, by decide⟩, (absurd · (by decide))⟩
  | .array (_ :: _) =>
    exact ⟨'[', _, by rw [indentedChars]; rfl, ⟨rfl, by decide⟩, (absurd · (by decide))⟩
  | .object [] => exact ⟨'\x7b', _, by rw [indentedChars], ⟨rfl, by decide⟩, (absurd · (by decide))⟩
  | .object (_ :: _) =>
    exact ⟨'\x7b', _, by rw [indentedChars]; rfl, ⟨rfl, by decide⟩, (absurd · (by decide))⟩

/-! ### Lists and objects as written -/

/-- A list is its elements between brackets, with spaces before the second one. -/
theorem exists_indentedChars_array (vs : List Json) (level : Nat) :
    ∃ spaces, Reader.Spaces spaces ∧ (array vs).indentedChars level =
      '[' :: (indentedElements (level + 1) true vs ++ (spaces ++ [']'])) := by
  cases vs with
  | nil => exact ⟨[], .nil, by rw [indentedChars, indentedElements]; rfl⟩
  | cons v vs =>
    exact ⟨newLine level, .newLine level, by rw [indentedChars, List.cons_append,
      List.cons_append, List.append_assoc]⟩

/-- An object is its members between braces, with spaces before the second one. -/
theorem exists_indentedChars_object (ms : List (String × Json)) (level : Nat) :
    ∃ spaces, Reader.Spaces spaces ∧ (object ms).indentedChars level =
      '\x7b' :: (indentedMembers (level + 1) true ms ++ (spaces ++ ['\x7d'])) := by
  cases ms with
  | nil => exact ⟨[], .nil, by rw [indentedChars, indentedMembers]; rfl⟩
  | cons m ms =>
    exact ⟨newLine level, .newLine level, by rw [indentedChars, List.cons_append,
      List.cons_append, List.append_assoc]⟩

theorem length_le_indentedElements (vs : List Json) (level : Nat) (first : Bool) :
    vs.length ≤ (indentedElements level first vs).length := by
  induction vs generalizing first with
  | nil => exact Nat.zero_le _
  | cons v vs ih =>
    have hrest := ih false
    rw [indentedElements, List.length_append, List.length_append, List.length_append, newLine,
      List.length_cons, List.length_cons]
    omega

theorem length_le_indentedMembers (ms : List (String × Json)) (level : Nat) (first : Bool) :
    ms.length ≤ (indentedMembers level first ms).length := by
  induction ms generalizing first with
  | nil => exact Nat.zero_le _
  | cons m ms ih =>
    have hrest := ih false
    obtain ⟨name, v⟩ := m
    simp only [indentedMembers, List.length_append, List.length_cons]
    omega

namespace Reader

/-! ### Readers that undo the writing of a value -/

/-- Wherever the value stands, the reader takes it off the text and gives `a`. -/
def ReadsBack {α : Type} (r : Reader α) (v : Json) (a : α) : Prop :=
  ∀ (level : Nat) (spaces rest : List Char), Spaces spaces → Stops rest →
    r (spaces ++ (v.indentedChars level ++ rest)) = .ok (a, rest)

variable {α β σ : Type}

theorem ReadsBack.map {r : Reader α} {v : Json} {a : α} (h : ReadsBack r v a) (f : α → β) :
    ReadsBack (do return f (← r)) v (f a) := by
  intro level spaces rest hspaces hrest
  rw [bind_ok (h level spaces rest hspaces hrest)]
  rfl

theorem ReadsBack.readWhole {r : Reader α} {v : Json} {a : α} (h : ReadsBack r v a) :
    readWhole r v.indented = .ok a := by
  have hread := h 0 [] [] .nil .nil
  rw [List.nil_append, List.append_nil] at hread
  unfold Json.readWhole indented
  rw [String.toList_ofList]
  show Except.bind (r (v.indentedChars 0)) _ = _
  rw [hread]
  rfl

theorem text_append (s : String) (level : Nat) (rest : List Char) :
    (Json.text s).indentedChars level ++ rest =
      '"' :: (s.toList.flatMap escapedChar ++ '"' :: rest) := by
  simp only [indentedChars, textBetweenQuotes, List.cons_append, List.append_assoc,
    List.nil_append]

theorem readsBack_text (s : String) : ReadsBack text (.text s) s := by
  intro level spaces rest hspaces _
  rw [text_append]
  unfold text
  rw [bind_ok (peek_spaces hspaces rfl _)]
  show (advance >>= fun _ => textBody) _ = _
  rw [bind_ok (advance_cons _ _), textBody_escaped]

theorem ReadsBack.parsed {parse : String → Option α} {s : String} {a : α} (h : parse s = some a) :
    ReadsBack (parsed parse) (.text s) a := by
  intro level spaces rest hspaces hrest
  unfold Reader.parsed
  rw [bind_ok (readsBack_text s level spaces rest hspaces hrest), h]
  rfl

theorem ReadsBack.word {table : List (String × α)} {s : String} {a : α}
    (h : table.lookup s = some a) (depth : Nat) : ReadsBack (word table depth) (.text s) a := by
  intro level spaces rest hspaces hrest
  have htext : ReadsBack (Reader.parsed fun s => table.lookup s) (.text s) a := .parsed h
  have hparsed := htext level [] rest .nil hrest
  rw [List.nil_append, text_append] at hparsed
  rw [text_append]
  unfold Reader.word
  rw [bind_ok (peek_spaces hspaces rfl _)]
  exact hparsed

/-- A reader that goes on with a word, once it sees the first character of it. -/
theorem ReadsBack.of_word {k : Option Char → Reader α} {c : Char} {word : List Char} {v : Json}
    {a : α} (hv : ∀ level, v.indentedChars level = c :: word) (hc : isSpace c = false)
    (hk : k (some c) = do advance; expectWord word; return a) : ReadsBack (peek >>= k) v a := by
  intro level spaces rest hspaces _
  rw [hv, List.cons_append, bind_ok (peek_spaces hspaces hc _), hk]
  exact advance_word c word rest a

theorem readsBack_bool (b : Bool) : ReadsBack bool (.bool b) b := by
  unfold bool
  cases b with
  | true => exact .of_word (fun _ => by rw [indentedChars]; rfl) rfl rfl
  | false => exact .of_word (fun _ => by rw [indentedChars]; rfl) rfl rfl

theorem readsBack_nullable_null (r : Reader α) : ReadsBack (nullable r) .null none := by
  unfold nullable
  exact .of_word (fun _ => by rw [indentedChars]) rfl rfl

theorem ReadsBack.nullable {r : Reader α} {v : Json} {a : α} (h : ReadsBack r v a)
    (hv : v ≠ .null) : ReadsBack (nullable r) v (some a) := by
  intro level spaces rest hspaces hrest
  obtain ⟨c, cs, hcs, hc, hnull⟩ := indentedChars_opens v level
  have hread := h level [] rest .nil hrest
  rw [hcs, List.nil_append, List.cons_append] at hread
  have hn : c ≠ 'n' := fun heq => hv (hnull heq)
  rw [hcs, List.cons_append]
  unfold Reader.nullable
  rw [bind_ok (peek_spaces hspaces hc.visible _)]
  simp only [Option.some.injEq, hn, imp_self]
  rw [bind_ok hread]
  rfl

theorem ReadsBack.ofOption {r : Reader α} {f : α → Json} (hread : ∀ a, ReadsBack r (f a) a)
    (hnull : ∀ a, f a ≠ .null) (o : Option α) : ReadsBack (Reader.nullable r) (ofOption f o) o := by
  cases o with
  | none => exact readsBack_nullable_null r
  | some a => exact (hread a).nullable (hnull a)

theorem readsBack_wholeIn {low high n : Int} (h : low ≤ n ∧ n < high)
    (hlow : -0x8000000000000000 ≤ low) (hhigh : high ≤ 0x10000000000000000) :
    ReadsBack (wholeIn low high) (.ofInt n) n := by
  intro level spaces rest hspaces hrest
  have hfits : -0x8000000000000000 ≤ n ∧ n < 0x10000000000000000 := by omega
  have hnumber := number_intDigits ⟨n, hfits.1, hfits.2⟩ hrest
  -- the first character tells the reader that this is a number
  obtain ⟨c, cs, hcs, hc⟩ := (Number.whole ⟨n, hfits.1, hfits.2⟩).text_opens
  have htext : Decimal.intDigits n = c :: cs := hcs
  rw [ofInt, Whole.ofInt?, dif_pos hfits]
  simp only [indentedChars, Number.text]
  rw [htext, List.cons_append] at hnumber ⊢
  unfold wholeIn
  rw [bind_ok (peek_spaces hspaces (IsOpening.of_number hc).visible _)]
  simp only [if_pos hc]
  rw [bind_ok hnumber]
  simp only [if_pos h]
  rfl

/-! ### Lists -/

theorem nextElement_end (first : Bool) {spaces : List Char} (h : Spaces spaces)
    (rest : List Char) : nextElement first (spaces ++ ']' :: rest) = .ok (false, ']' :: rest) := by
  unfold nextElement
  rw [bind_ok (peek_spaces h rfl _)]
  rfl

theorem nextElement_more (first : Bool) {spaces : List Char} (h : Spaces spaces) (v : Json)
    (level : Nat) (rest : List Char) :
    nextElement first ((if first then [] else [',']) ++ spaces ++ (v.indentedChars level ++ rest)) =
      .ok (true, v.indentedChars level ++ rest) := by
  obtain ⟨c, cs, hcs, hc, -⟩ := indentedChars_opens v level
  rw [hcs, List.cons_append]
  -- the value begins with a visible character that does not end the list
  have hpeek := peek_spaces h hc.visible (cs ++ rest)
  unfold nextElement
  cases first with
  | true =>
    rw [if_pos rfl, List.nil_append, bind_ok hpeek]
    simp only [if_neg hc.notEnd, if_true]
    rfl
  | false =>
    rw [if_neg (by decide), List.append_assoc, List.singleton_append, bind_ok (peek_cons rfl _)]
    show (advance >>= _) _ = _
    rw [bind_ok (advance_cons _ _), bind_ok hpeek]
    simp only [if_neg hc.notEnd]
    rfl

theorem stops_indentedElements (vs : List Json) (level : Nat) {rest : List Char}
    (h : Stops rest) : Stops (indentedElements level false vs ++ rest) := by
  cases vs with
  | nil => rwa [indentedElements]
  | cons v vs =>
    rw [indentedElements, if_neg (by decide)]
    exact .cons (by decide) _

theorem stops_indentedMembers (ms : List (String × Json)) (level : Nat) {rest : List Char}
    (h : Stops rest) : Stops (indentedMembers level false ms ++ rest) := by
  cases ms with
  | nil => rwa [indentedMembers]
  | cons m ms =>
    rw [indentedMembers, if_neg (by decide)]
    exact .cons (by decide) _

theorem elementsIn_indentedElements {element : Reader α} {vs : List Json} {as : List α}
    (h : List.Forall₂ (ReadsBack element) vs as) {fuel : Nat} (hfuel : vs.length < fuel)
    (first : Bool) (level : Nat) {spaces : List Char} (hspaces : Spaces spaces)
    (rest : List Char) :
    elementsIn element fuel first (indentedElements level first vs ++ (spaces ++ ']' :: rest)) =
      .ok (as, ']' :: rest) := by
  induction h generalizing fuel first with
  | nil =>
    obtain ⟨fuel, rfl⟩ := Nat.exists_eq_add_one.mpr hfuel
    rw [indentedElements, List.nil_append, elementsIn, bind_ok (nextElement_end first hspaces rest)]
    rfl
  | @cons v a vs as hv _ ih =>
    obtain ⟨fuel, rfl⟩ := Nat.exists_eq_add_one_of_ne_zero (Nat.ne_zero_of_lt hfuel)
    have hstop : Stops (indentedElements level false vs ++ (spaces ++ ']' :: rest)) :=
      stops_indentedElements vs level (.spaces_append hspaces (.cons (by decide) rest))
    have hmore := nextElement_more first (.newLine level) v level
      (indentedElements level false vs ++ (spaces ++ ']' :: rest))
    have hread := hv level [] _ .nil hstop
    -- a round takes the comma and the spaces, and then the element
    rw [indentedElements, List.append_assoc _ (indentedElements level false vs),
      List.append_assoc _ (indentedChars level v), elementsIn, bind_ok hmore]
    rw [List.nil_append] at hread
    simp only [if_true]
    rw [bind_ok hread, bind_ok (ih (by simpa using hfuel) false)]
    rfl

theorem elements_indentedElements {element : Reader α} {vs : List Json} {as : List α}
    (h : List.Forall₂ (ReadsBack element) vs as) (level : Nat) {spaces : List Char}
    (hspaces : Spaces spaces) (rest : List Char) :
    elements element (indentedElements level true vs ++ (spaces ++ ']' :: rest)) =
      .ok (as, rest) := by
  -- the reader takes the length of the text as its fuel, and each element needs a character at
  -- least
  have hfuel : vs.length <
      (indentedElements level true vs ++ (spaces ++ ']' :: rest)).length + 1 := by
    have hle := length_le_indentedElements vs level true
    rw [List.length_append]
    omega
  have hget : ∀ cs, (get : Reader (List Char)) cs = .ok (cs, cs) := fun _ => rfl
  have hend : endList (']' :: rest) = .ok ((), rest) := by
    unfold endList
    rw [bind_ok (peek_cons rfl _)]
    rfl
  unfold elements
  rw [bind_ok (hget _), bind_ok (elementsIn_indentedElements h hfuel true level hspaces rest),
    bind_ok hend]
  rfl

/-- A reader that goes on with the elements of a list, once it sees the bracket. -/
theorem ReadsBack.of_array {k : Option Char → Reader α} {body : Unit → Reader α} {vs : List Json}
    {a : α} (hk : k (some '[') = advance >>= body)
    (hbody : ∀ (level : Nat) (spaces rest : List Char), Spaces spaces →
      body () (indentedElements level true vs ++ (spaces ++ ']' :: rest)) = .ok (a, rest)) :
    ReadsBack (peek >>= k) (.array vs) a := by
  intro level spaces rest hspaces _
  obtain ⟨inside, hinside, hvs⟩ := exists_indentedChars_array vs level
  rw [hvs, List.cons_append, List.append_assoc, List.append_assoc, List.singleton_append,
    bind_ok (peek_spaces hspaces rfl _), hk, bind_ok (advance_cons _ _)]
  exact hbody (level + 1) inside rest hinside

/-- A list is read back if its elements are. -/
theorem ReadsBack.list {inner : Nat → Reader α} {depth : Nat} {vs : List Json} {as : List α}
    (h : List.Forall₂ (ReadsBack (inner depth)) vs as) :
    ReadsBack (list inner (depth + 1)) (.array vs) as := by
  unfold Reader.list
  refine .of_array rfl fun level spaces rest hspaces => ?_
  exact elements_indentedElements h level hspaces rest

theorem ReadsBack.list_map {inner : Nat → Reader β} {depth : Nat} {as : List α} {f : α → Json}
    {g : α → β} (h : ∀ a ∈ as, ReadsBack (inner depth) (f a) (g a)) :
    ReadsBack (Reader.list inner (depth + 1)) (.array (as.map f)) (as.map g) := by
  refine .list ?_
  rw [List.forall₂_map_left_iff, List.forall₂_map_right_iff, List.forall₂_same]
  exact h

/-! ### Objects -/

theorem nextMember_end (first : Bool) {spaces : List Char} (h : Spaces spaces)
    (rest : List Char) :
    nextMember first (spaces ++ '\x7d' :: rest) = .ok (false, '\x7d' :: rest) := by
  unfold nextMember
  rw [bind_ok (peek_spaces h rfl _)]
  rfl

theorem nextMember_more (first : Bool) {spaces : List Char} (h : Spaces spaces)
    (rest : List Char) :
    nextMember first ((if first then [] else [',']) ++ spaces ++ '"' :: rest) =
      .ok (true, '"' :: rest) := by
  have hpeek := peek_spaces h (c := '"') rfl rest
  unfold nextMember
  cases first with
  | true =>
    rw [if_pos rfl, List.nil_append, bind_ok hpeek]
    rfl
  | false =>
    rw [if_neg (by decide), List.append_assoc, List.singleton_append, bind_ok (peek_cons rfl _)]
    show (advance >>= _) _ = _
    rw [bind_ok (advance_cons _ _), bind_ok hpeek]
    rfl

/-- Behind the name of a written member, one step takes its value off the text. -/
def Takes (step : String → σ → Reader σ) (m : String × Json) (s s' : σ) : Prop :=
  ∀ (level : Nat) (rest : List Char), Stops rest →
    step m.1 s (':' :: ' ' :: (m.2.indentedChars level ++ rest)) = .ok (s', rest)

/-- One step for each of the members, in their order. -/
inductive Folds (step : String → σ → Reader σ) : List (String × Json) → σ → σ → Prop where
  /-- There is no member. -/
  | nil (s : σ) : Folds step [] s s
  /-- The first member is taken, and then the others. -/
  | cons {m : String × Json} {ms : List (String × Json)} {s s₁ s₂ : σ}
      (head : Takes step m s s₁) (tail : Folds step ms s₁ s₂) : Folds step (m :: ms) s s₂

/-- The colon is taken, and the value is read behind its space. -/
theorem colon_bind {r : Reader α} {v : Json} {a : α} (h : ReadsBack r v a) (f : α → Reader β)
    (level : Nat) {rest : List Char} (hrest : Stops rest) :
    (do colon; f (← r)) (':' :: ' ' :: (v.indentedChars level ++ rest)) = f a rest := by
  have hcolon : colon (':' :: ' ' :: (v.indentedChars level ++ rest)) =
      .ok ((), ' ' :: (v.indentedChars level ++ rest)) := by
    unfold colon
    rw [bind_ok (peek_cons rfl _)]
    rfl
  have hspace : Spaces [' '] := by
    intro c hc
    rw [List.mem_singleton.1 hc]
    rfl
  rw [bind_ok hcolon]
  exact bind_ok (h level [' '] rest hspace hrest)

theorem foldMembersIn_indentedMembers {step : String → σ → Reader σ} {ms : List (String × Json)}
    {s s' : σ} (h : Folds step ms s s') {fuel : Nat} (hfuel : ms.length < fuel) (first : Bool)
    (level : Nat) {spaces : List Char} (hspaces : Spaces spaces) (rest : List Char) :
    foldMembersIn step fuel first s
        (indentedMembers level first ms ++ (spaces ++ '\x7d' :: rest)) =
      .ok (s', '\x7d' :: rest) := by
  induction h generalizing fuel first with
  | nil s =>
    obtain ⟨fuel, rfl⟩ := Nat.exists_eq_add_one.mpr hfuel
    rw [indentedMembers, List.nil_append, foldMembersIn,
      bind_ok (nextMember_end first hspaces rest)]
    rfl
  | @cons m ms s s₁ s₂ hm _ ih =>
    obtain ⟨fuel, rfl⟩ := Nat.exists_eq_add_one_of_ne_zero (Nat.ne_zero_of_lt hfuel)
    obtain ⟨name, v⟩ := m
    let behind := indentedMembers level false ms ++ (spaces ++ '\x7d' :: rest)
    let body := name.toList.flatMap escapedChar ++
      '"' :: ':' :: ' ' :: (v.indentedChars level ++ behind)
    have hstop : Stops behind :=
      stops_indentedMembers ms level (.spaces_append hspaces (.cons (by decide) rest))
    -- a round takes the comma and the spaces, the name, and what the step takes
    have hwritten : indentedMembers level first ((name, v) :: ms) ++ (spaces ++ '\x7d' :: rest) =
        (if first then [] else [',']) ++ newLine level ++ '"' :: body := by
      simp [indentedMembers, textBetweenQuotes, body, behind]
    rw [hwritten, foldMembersIn, bind_ok (nextMember_more first (.newLine level) body)]
    simp only [if_true]
    rw [bind_ok (advance_cons _ _), bind_ok (textBody_escaped name _),
      bind_ok (hm level behind hstop)]
    exact ih (by simpa using hfuel) false

theorem foldMembers_indentedMembers {step : String → σ → Reader σ} {ms : List (String × Json)}
    {s s' : σ} (h : Folds step ms s s') (level : Nat) {spaces : List Char}
    (hspaces : Spaces spaces) (rest : List Char) :
    foldMembers step s (indentedMembers level true ms ++ (spaces ++ '\x7d' :: rest)) =
      .ok (s', '\x7d' :: rest) := by
  -- as for lists, the length of the text is fuel enough
  have hfuel : ms.length <
      (indentedMembers level true ms ++ (spaces ++ '\x7d' :: rest)).length + 1 := by
    have hle := length_le_indentedMembers ms level true
    rw [List.length_append]
    omega
  have hget : ∀ cs, (get : Reader (List Char)) cs = .ok (cs, cs) := fun _ => rfl
  unfold foldMembers
  rw [bind_ok (hget _)]
  exact foldMembersIn_indentedMembers h hfuel true level hspaces rest

/-- A reader that goes on with the members of an object, once it sees the brace. -/
theorem ReadsBack.of_object {k : Option Char → Reader α} {body : Unit → Reader α}
    {ms : List (String × Json)} {a : α} (hk : k (some '\x7b') = advance >>= body)
    (hbody : ∀ (level : Nat) (spaces rest : List Char), Spaces spaces →
      body () (indentedMembers level true ms ++ (spaces ++ '\x7d' :: rest)) = .ok (a, rest)) :
    ReadsBack (peek >>= k) (.object ms) a := by
  intro level spaces rest hspaces _
  obtain ⟨inside, hinside, hms⟩ := exists_indentedChars_object ms level
  rw [hms, List.cons_append, List.append_assoc, List.append_assoc, List.singleton_append,
    bind_ok (peek_spaces hspaces rfl _), hk, bind_ok (advance_cons _ _)]
  exact hbody (level + 1) inside rest hinside

theorem endObject_cons (rest : List Char) : endObject ('\x7d' :: rest) = .ok ((), rest) := by
  unfold endObject
  rw [bind_ok (peek_cons rfl _)]
  rfl

/-! ### Free-form values -/

theorem members_indentedMembers {inner : Reader Json} {ms : List (String × Json)}
    (h : Folds (fun name ms => do colon; return (name, ← inner) :: ms) ms [] ms.reverse)
    (level : Nat) {spaces : List Char} (hspaces : Spaces spaces) (rest : List Char) :
    valueWith.members inner (indentedMembers level true ms ++ (spaces ++ '\x7d' :: rest)) =
      .ok (ms, rest) := by
  unfold valueWith.members
  rw [bind_ok (foldMembers_indentedMembers h level hspaces rest), bind_ok (endObject_cons rest),
    List.reverse_reverse]
  rfl

theorem readsBack_valueWith_number (inner : Option (Reader Json)) (w : Whole) :
    ReadsBack (valueWith inner) (.number (.whole w)) (.number (.whole w)) := by
  intro level spaces rest hspaces hrest
  have hnumber := number_intDigits w hrest
  obtain ⟨c, cs, hcs, hc⟩ := (Number.whole w).text_opens
  have htext : Decimal.intDigits w.val = c :: cs := hcs
  -- a number begins with a digit or a sign, so it is taken for none of the three words
  have hword : c ≠ 'n' ∧ c ≠ 't' ∧ c ≠ 'f' := by
    refine ⟨?_, ?_, ?_⟩ <;> rintro rfl <;> exact absurd hc (by decide)
  simp only [indentedChars, Number.text]
  rw [htext, List.cons_append] at hnumber ⊢
  unfold valueWith
  rw [bind_ok (peek_spaces hspaces (IsOpening.of_number hc).visible _)]
  simp only [if_neg hword.1, if_neg hword.2.1, if_neg hword.2.2, if_pos hc]
  rw [bind_ok hnumber]
  rfl

theorem readsBack_valueWith_null (inner : Option (Reader Json)) :
    ReadsBack (valueWith inner) .null .null := by
  unfold valueWith
  exact .of_word (fun _ => by rw [indentedChars]) rfl rfl

theorem readsBack_valueWith_bool (inner : Option (Reader Json)) (b : Bool) :
    ReadsBack (valueWith inner) (.bool b) (.bool b) := by
  unfold valueWith
  cases b with
  | true => exact .of_word (fun _ => by rw [indentedChars]; rfl) rfl rfl
  | false => exact .of_word (fun _ => by rw [indentedChars]; rfl) rfl rfl

theorem readsBack_valueWith_text (inner : Option (Reader Json)) (s : String) :
    ReadsBack (valueWith inner) (.text s) (.text s) := by
  intro level spaces rest hspaces _
  rw [text_append]
  unfold valueWith
  rw [bind_ok (peek_spaces hspaces rfl _)]
  show (advance >>= _) _ = _
  rw [bind_ok (advance_cons _ _), bind_ok (textBody_escaped s rest)]
  rfl

theorem readsBack_valueWith_array {inner : Reader Json} {vs : List Json}
    (h : List.Forall₂ (ReadsBack inner) vs vs) :
    ReadsBack (valueWith (some inner)) (.array vs) (.array vs) := by
  unfold valueWith
  refine .of_array rfl fun level spaces rest hspaces => ?_
  rw [bind_ok (elements_indentedElements h level hspaces rest)]
  rfl

theorem readsBack_valueWith_object {inner : Reader Json} {ms : List (String × Json)}
    (h : Folds (fun name ms => do colon; return (name, ← inner) :: ms) ms [] ms.reverse) :
    ReadsBack (valueWith (some inner)) (.object ms) (.object ms) := by
  unfold valueWith
  refine .of_object rfl fun level spaces rest hspaces => ?_
  rw [bind_ok (members_indentedMembers h level hspaces rest)]
  rfl

/-- Every level reads the same scalars; a level below is needed for lists and objects only. -/
theorem exists_value_eq (depth : Nat) : ∃ inner, value depth = valueWith inner := by
  cases depth with
  | zero => exact ⟨none, rfl⟩
  | succ depth => exact ⟨some (value depth), rfl⟩

mutual

/-- **A free-form value is read back** if it holds no double and is not nested too deep. -/
theorem readsBack_value : (v : Json) → v.isFloatFree = true → (depth : Nat) → v.depth ≤ depth →
    ReadsBack (value depth) v v
  | .null, _, depth, _ => by
    obtain ⟨inner, h⟩ := exists_value_eq depth
    exact h ▸ readsBack_valueWith_null inner
  | .bool b, _, depth, _ => by
    obtain ⟨inner, h⟩ := exists_value_eq depth
    exact h ▸ readsBack_valueWith_bool inner b
  | .number (.whole w), _, depth, _ => by
    obtain ⟨inner, h⟩ := exists_value_eq depth
    exact h ▸ readsBack_valueWith_number inner w
  | .number (.double _), h, _, _ => by
    rw [isFloatFree] at h
    exact absurd h (by decide)
  | .text s, _, depth, _ => by
    obtain ⟨inner, h⟩ := exists_value_eq depth
    exact h ▸ readsBack_valueWith_text inner s
  | .array vs, h, depth, hdepth => by
    rw [isFloatFree] at h
    rw [Json.depth] at hdepth
    obtain ⟨below, rfl⟩ := Nat.exists_eq_add_of_le' (Nat.le_of_add_left_le hdepth)
    -- the elements are read one level below
    have hvs := readsBack_values vs h below (Nat.le_of_add_le_add_right hdepth)
    exact readsBack_valueWith_array hvs
  | .object ms, h, depth, hdepth => by
    rw [isFloatFree] at h
    rw [Json.depth] at hdepth
    obtain ⟨below, rfl⟩ := Nat.exists_eq_add_of_le' (Nat.le_of_add_left_le hdepth)
    have hms := folds_value ms h below (Nat.le_of_add_le_add_right hdepth) []
    rw [List.append_nil] at hms
    exact readsBack_valueWith_object hms

theorem readsBack_values : (vs : List Json) → areFloatFree vs = true → (depth : Nat) →
    depthOfElements vs ≤ depth → List.Forall₂ (ReadsBack (value depth)) vs vs
  | [], _, _, _ => .nil
  | v :: rest, h, depth, hdepth => by
    rw [areFloatFree, Bool.and_eq_true] at h
    rw [depthOfElements, Nat.max_le] at hdepth
    exact .cons (readsBack_value v h.1 depth hdepth.1) (readsBack_values rest h.2 depth hdepth.2)

theorem folds_value : (ms : List (String × Json)) → haveNoFloat ms = true → (depth : Nat) →
    depthOfMembers ms ≤ depth → (into : List (String × Json)) →
    Folds (fun name ms => do colon; return (name, ← value depth) :: ms) ms into (ms.reverse ++ into)
  | [], _, _, _, into => .nil into
  | (name, v) :: rest, h, depth, hdepth, into => by
    rw [haveNoFloat, Bool.and_eq_true] at h
    rw [depthOfMembers, Nat.max_le] at hdepth
    have hv := readsBack_value v h.1 depth hdepth.1
    have hrest := folds_value rest h.2 depth hdepth.2 ((name, v) :: into)
    rw [List.reverse_cons, List.append_assoc]
    exact .cons (fun level _ htail => colon_bind hv _ level htail) hrest

end

end Reader

end VisualQuery.Json
