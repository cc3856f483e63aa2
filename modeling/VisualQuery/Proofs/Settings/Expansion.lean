import Mathlib.Data.List.TakeWhile
import VisualQuery.Settings.Basic

/-!
# Texts are expanded reference by reference

A text of the settings may be meant as a sequence of pieces: literal text, references with and
without braces, and dollar signs that stand for themselves (`Piece`). Written one behind the other
the pieces run together, and what a piece says can depend on what comes behind it: `$name` ends
where the next character belongs to no name, and a dollar sign alone must not be in front of a name
or of an opening brace. `Piece.Fits` asks for this and for nothing else.

Then the text is split where the pieces meet (`Piece.split_chars_append`, case by case), and it is
expanded piece by piece: literal text stays, every reference becomes its value, and values are not
looked at again (`GenerationSettings.resolve_written`). The first variable without a value stops the
expansion and is named.
-/

namespace VisualQuery

/-- A piece of a text that refers to variables. -/
inductive Piece where
  /-- A text that stands for itself. -/
  | literal (text : String)
  /-- A dollar sign that stands for itself. -/
  | dollar
  /-- A reference between braces. -/
  | braced (name : String)
  /-- A reference without braces. -/
  | bare (name : String)
deriving DecidableEq, Repr

namespace Piece

/-- The characters of a piece. -/
def chars : Piece → List Char
  | .literal text => text.toList
  | .dollar => ['$']
  | .braced name => '$' :: '\x7b' :: name.toList ++ ['\x7d']
  | .bare name => '$' :: name.toList

/-- The characters of a sequence of pieces. -/
def written (pieces : List Piece) : List Char := pieces.flatMap chars

/-- Whether a piece is what it is meant to be in front of the given rest of the text. -/
def Fits : Piece → List Char → Prop
  | .literal text, _ => '$' ∉ text.toList
  | .dollar, rest => ∀ c ∈ rest.head?, c ≠ '\x7b' ∧ Segment.isNameChar c = false
  | .braced name, _ => '\x7d' ∉ name.toList
  | .bare name, rest =>
    name ≠ "" ∧ (∀ c ∈ name.toList, Segment.isNameChar c = true) ∧
      ∀ c ∈ rest.head?, Segment.isNameChar c = false

/-- Whether each piece of a sequence fits in front of the ones behind it. -/
def AllFit : List Piece → Prop
  | [] => True
  | p :: rest => p.Fits (written rest) ∧ AllFit rest

/-- The variable that a piece refers to. -/
def name? : Piece → Option String
  | .literal _ => none
  | .dollar => none
  | .braced name => some name
  | .bare name => some name

/-- What stands for a piece in the result, if its variable has a value. -/
def value (env : Environment) : Piece → Option String
  | .literal text => some text
  | .dollar => some "$"
  | .braced name => env name
  | .bare name => env name

/-! ### Where a text is split -/

/-- What a piece is split into: literal text into its characters. -/
def segments : Piece → List Segment
  | .literal text => text.toList.map .plain
  | .dollar => [.dollar]
  | .braced name => [.braced name.toList]
  | .bare name => [.bare name.toList]

variable {rest : List Char}

theorem split_plain {c : Char} (h : c ≠ '$') :
    Segment.split (c :: rest) = .plain c :: Segment.split rest :=
  Segment.split.eq_4 c rest (fun _ hc => absurd hc h) h

theorem split_dollar (h : ∀ c ∈ rest.head?, c ≠ '\x7b' ∧ Segment.isNameChar c = false) :
    Segment.split ('$' :: rest) = .dollar :: Segment.split rest := by
  have hname : rest.takeWhile Segment.isNameChar = [] := by
    cases rest with
    | nil => rfl
    | cons c rest => exact List.takeWhile_cons_of_neg (by simp [(h c rfl).2])
  rw [Segment.split.eq_3 rest fun _ hrest => (h '\x7b' (by rw [hrest]; rfl)).1 rfl, hname]
  rfl

/-- An opening brace belongs to no name: a name behind a dollar sign is no reference in braces. -/
theorem not_isNameChar_brace : Segment.isNameChar '\x7b' = false := by
  decide +kernel

theorem split_bare {name : List Char} (hne : name ≠ [])
    (hall : ∀ c ∈ name, Segment.isNameChar c = true)
    (hstop : ∀ c ∈ rest.head?, Segment.isNameChar c = false) :
    Segment.split ('$' :: (name ++ rest)) = .bare name :: Segment.split rest := by
  -- the name begins with a name character, so the braced form is ruled out
  have hbrace : ∀ cs, name ++ rest = '\x7b' :: cs → False := by
    intro cs hcs
    obtain ⟨c, name, rfl⟩ := List.exists_cons_of_ne_nil hne
    obtain ⟨rfl, -⟩ := List.cons.inj hcs
    have hfirst := hall '\x7b' List.mem_cons_self
    rw [not_isNameChar_brace] at hfirst
    exact Bool.false_ne_true hfirst
  -- the name is as long as it can be: what follows does not go on with it
  have htake : (name ++ rest).takeWhile Segment.isNameChar = name := by
    rw [List.takeWhile_append_of_pos hall]
    cases rest with
    | nil => exact List.append_nil name
    | cons c rest =>
      rw [List.takeWhile_cons_of_neg (by simp [hstop c rfl]), List.append_nil]
  have hdrop : (name ++ rest).dropWhile Segment.isNameChar = rest := by
    rw [List.dropWhile_append_of_pos hall]
    cases rest with
    | nil => rfl
    | cons c rest => exact List.dropWhile_cons_of_neg (by simp [hstop c rfl])
  rw [Segment.split.eq_3 _ hbrace, htake, hdrop, if_neg (by simpa using hne)]

theorem split_braced {name : List Char} (h : '\x7d' ∉ name) :
    Segment.split ('$' :: '\x7b' :: (name ++ '\x7d' :: rest)) =
      .braced name :: Segment.split rest := by
  have hall : ∀ c ∈ name, Segment.isBracedChar c = true := fun c hc =>
    bne_iff_ne.mpr fun heq => h (heq ▸ hc)
  have hclosing : ¬ Segment.isBracedChar '\x7d' = true := by decide
  rw [Segment.split.eq_2, List.takeWhile_append_of_pos hall, List.dropWhile_append_of_pos hall,
    List.takeWhile_cons_of_neg hclosing, List.dropWhile_cons_of_neg hclosing, List.append_nil]
  rfl

/-- **A piece that fits is split off.** -/
theorem split_chars_append (p : Piece) (h : p.Fits rest) :
    Segment.split (p.chars ++ rest) = p.segments ++ Segment.split rest := by
  cases p with
  | literal text =>
    -- without a dollar sign each character is a segment of its own
    have hplain : ∀ cs : List Char, '$' ∉ cs →
        Segment.split (cs ++ rest) = cs.map .plain ++ Segment.split rest := by
      intro cs hcs
      induction cs with
      | nil => rfl
      | cons c cs ih =>
        obtain ⟨hc, hcs⟩ := not_or.mp (mt List.mem_cons.mpr hcs)
        rw [List.cons_append, split_plain (Ne.symm hc), ih hcs]
        rfl
    exact hplain text.toList h
  | dollar => exact split_dollar h
  | braced name =>
    rw [chars, List.cons_append, List.cons_append, List.append_assoc]
    exact split_braced h
  | bare name =>
    obtain ⟨hne, hall, hstop⟩ := h
    exact split_bare (fun hnil => hne (String.toList_eq_nil_iff.mp hnil)) hall hstop

theorem split_written {pieces : List Piece} (h : AllFit pieces) :
    Segment.split (written pieces) = pieces.flatMap segments := by
  induction pieces with
  | nil => exact Segment.split.eq_1
  | cons p rest ih =>
    obtain ⟨hp, hrest⟩ := h
    calc Segment.split (p.chars ++ written rest)
        = p.segments ++ Segment.split (written rest) := split_chars_append p hp
      _ = p.segments ++ rest.flatMap segments := by rw [ih hrest]

/-! ### Every text is made of pieces -/

/-- Whether a text has an opening brace of a reference behind which there is no closing one. -/
def Unclosed (cs : List Char) : Prop :=
  ∃ before name, cs = before ++ '$' :: '\x7b' :: name ∧ '\x7d' ∉ name

theorem exists_written_append (p : Piece) (hp : p.Fits rest)
    (h : (∃ pieces, AllFit pieces ∧ written pieces = rest) ∨ Unclosed rest) :
    (∃ pieces, AllFit pieces ∧ written pieces = p.chars ++ rest) ∨ Unclosed (p.chars ++ rest) := by
  rcases h with ⟨pieces, hall, rfl⟩ | ⟨before, name, rfl, hname⟩
  · exact .inl ⟨p :: pieces, ⟨hp, hall⟩, rfl⟩
  · exact .inr ⟨p.chars ++ before, name, (List.append_assoc ..).symm, hname⟩

/-- Up to the closing brace, and behind it. -/
theorem takeWhile_closed {cs : List Char} (h : '\x7d' ∈ cs) :
    cs.takeWhile Segment.isBracedChar ++ '\x7d' :: (cs.dropWhile Segment.isBracedChar).drop 1 =
      cs := by
  have hclosing : Segment.isBracedChar '\x7d' = false := by decide
  -- what is dropped between the two parts is the first closing brace
  induction cs with
  | nil => exact absurd h List.not_mem_nil
  | cons c cs ih =>
    cases hc : Segment.isBracedChar c with
    | true =>
      have hne : c ≠ '\x7d' := bne_iff_ne.mp hc
      rw [List.takeWhile_cons_of_pos hc, List.dropWhile_cons_of_pos hc, List.cons_append,
        ih ((List.mem_cons.mp h).resolve_left hne.symm)]
    | false =>
      have heq : c = '\x7d' := by simpa [Segment.isBracedChar] using hc
      subst heq
      rw [List.takeWhile_cons_of_neg (by simp [hc]), List.dropWhile_cons_of_neg (by simp [hc])]
      rfl

/-- **Every text is a sequence of pieces that fit**, unless a brace is left open. -/
theorem exists_written (cs : List Char) :
    (∃ pieces, AllFit pieces ∧ written pieces = cs) ∨ Unclosed cs := by
  induction cs using Segment.split.induct with
  | case1 => exact .inl ⟨[], trivial, rfl⟩
  | case2 cs ih =>
    by_cases hclosed : '\x7d' ∈ cs
    · -- the name ends at the first closing brace, so it has none in it
      have hname : '\x7d' ∉ cs.takeWhile Segment.isBracedChar := fun hmem =>
        absurd (List.mem_takeWhile_imp hmem) (by decide)
      have hchars : (Piece.braced (.ofList (cs.takeWhile Segment.isBracedChar))).chars ++
          (cs.dropWhile Segment.isBracedChar).drop 1 = '$' :: '\x7b' :: cs := by
        rw [chars, String.toList_ofList, List.cons_append, List.cons_append, List.append_assoc,
          List.singleton_append]
        exact congrArg ('$' :: '\x7b' :: ·) (takeWhile_closed hclosed)
      rw [← hchars]
      exact exists_written_append _ (by rwa [Fits, String.toList_ofList]) ih
    · -- a brace that is never closed: here the text leaves the grammar
      exact .inr ⟨[], cs, rfl, hclosed⟩
  | case3 cs hbrace hname ih =>
    -- a dollar sign before neither a brace nor a name
    refine exists_written_append .dollar (fun c hc => ?_) ih
    cases cs with
    | nil => exact absurd hc (by simp)
    | cons d cs =>
      obtain rfl := Option.some.inj hc
      refine ⟨fun heq => hbrace cs (by rw [heq]), Bool.eq_false_iff.mpr fun hd => ?_⟩
      rw [List.takeWhile_cons_of_pos hd] at hname
      exact Bool.false_ne_true hname
  | case4 cs hbrace hname ih =>
    have hfits : Fits (.bare (.ofList (cs.takeWhile Segment.isNameChar)))
        (cs.dropWhile Segment.isNameChar) := by
      refine ⟨fun hempty => hname ?_, fun c hc => ?_, fun c hc => ?_⟩
      · have hlist := congrArg String.toList hempty
        rw [String.toList_ofList] at hlist
        rw [hlist]
        rfl
      · rw [String.toList_ofList] at hc
        exact List.mem_takeWhile_imp hc
      · have hhead := List.head?_dropWhile_not Segment.isNameChar cs
        rw [Option.mem_def.mp hc] at hhead
        simpa using hhead
    have hstep := exists_written_append _ hfits ih
    rw [chars, String.toList_ofList, List.cons_append, List.takeWhile_append_dropWhile] at hstep
    exact hstep
  -- any other character, a literal of its own; adjacent ones need not be put together
  | case5 c cs _ hc ih =>
    have hfits : Fits (.literal (.singleton c)) cs := by
      rw [Fits, String.toList_singleton, List.mem_singleton]
      exact fun heq => hc heq.symm
    have hstep := exists_written_append _ hfits ih
    rw [chars, String.toList_singleton] at hstep
    exact hstep

/-! ### What stands for the pieces -/

/-- The first variable, in the order of the text, that has no value. -/
def firstUnset (env : Environment) (pieces : List Piece) : Option String :=
  (pieces.filterMap name?).find? fun name => (env name).isNone

/-- The text with every reference replaced by its value. -/
def substituted (env : Environment) (pieces : List Piece) : String :=
  String.join (pieces.map fun p => (p.value env).getD "")

variable {env : Environment} {p : Piece} {pieces : List Piece}

theorem firstUnset_of_value {v : String} (h : p.value env = some v) :
    firstUnset env (p :: pieces) = firstUnset env pieces := by
  have hset : ∀ name, env name = some v →
      firstUnset env (.bare name :: pieces) = firstUnset env pieces := fun name hname =>
    List.find?_cons_of_neg (by simp [hname])
  cases p with
  | literal text => rfl
  | dollar => rfl
  | braced name => exact hset name h
  | bare name => exact hset name h

/-- Only a reference has no value, and then its variable has none. -/
theorem exists_name_of_value (h : p.value env = none) :
    ∃ name, p.name? = some name ∧ env name = none := by
  cases p with
  | literal text => exact absurd h (Option.some_ne_none _)
  | dollar => exact absurd h (Option.some_ne_none _)
  | braced name => exact ⟨name, rfl, h⟩
  | bare name => exact ⟨name, rfl, h⟩

theorem firstUnset_of_unset {name : String} (hname : p.name? = some name)
    (h : env name = none) : firstUnset env (p :: pieces) = some name := by
  rw [firstUnset, List.filterMap_cons_some hname]
  exact List.find?_cons_of_pos (by simp [h])

theorem values_append (env : Environment) (as bs : List Segment) :
    Segment.values env (as ++ bs) =
      (Segment.values env as).bind fun cs => (Segment.values env bs).map (cs ++ ·) := by
  induction as with
  | nil => cases h : Segment.values env bs <;> simp [Segment.values, h, Except.bind, Except.map]
  | cons s as ih =>
    rw [List.cons_append, Segment.values, Segment.values, ih]
    -- the first name that is not set ends it, in whichever half it stands
    cases s.value env with
    | error name => rfl
    | ok here =>
      cases Segment.values env as with
      | error name => rfl
      | ok cs =>
        cases Segment.values env bs with
        | error name => rfl
        | ok ds => exact congrArg Except.ok (List.append_assoc here cs ds).symm

theorem values_singleton (s : Segment) : Segment.values env [s] = s.value env := by
  rw [Segment.values, Segment.values]
  cases s.value env with
  | error name => rfl
  | ok cs => exact congrArg Except.ok (List.append_nil cs)

theorem values_segments {v : String} (h : p.value env = some v) :
    Segment.values env p.segments = .ok v.toList := by
  -- the value is put in as it is, and dollar signs in it are not looked at again
  have hset : ∀ name, env name = some v →
      Segment.value.valueOf env (String.ofList name.toList) = .ok v.toList := by
    intro name hname
    rw [Segment.value.valueOf, String.ofList_toList, hname]
  cases p with
  | literal text =>
    obtain rfl := Option.some.inj h
    have hplain : ∀ cs : List Char, Segment.values env (cs.map .plain) = .ok cs := by
      intro cs
      induction cs with
      | nil => rfl
      | cons c cs ih =>
        rw [List.map_cons, Segment.values, ih]
        rfl
    exact hplain text.toList
  | dollar =>
    obtain rfl := Option.some.inj h
    rfl
  | braced name => exact (values_singleton _).trans (hset name h)
  | bare name => exact (values_singleton _).trans (hset name h)

theorem values_segments_of_unset {name : String} (hname : p.name? = some name)
    (h : env name = none) : Segment.values env p.segments = .error name := by
  have hunset : Segment.value.valueOf env (String.ofList name.toList) = .error name := by
    rw [Segment.value.valueOf, String.ofList_toList, h]
  cases p with
  | literal text => exact absurd hname.symm (Option.some_ne_none _)
  | dollar => exact absurd hname.symm (Option.some_ne_none _)
  | braced _ =>
    obtain rfl := Option.some.inj hname
    exact (values_singleton _).trans hunset
  | bare _ =>
    obtain rfl := Option.some.inj hname
    exact (values_singleton _).trans hunset

/-- The pieces are looked up from left to right, up to the first one without a value. -/
theorem values_pieces (env : Environment) (pieces : List Piece) :
    Segment.values env (pieces.flatMap segments) =
      match firstUnset env pieces with
      | some name => .error name
      | none => .ok (substituted env pieces).toList := by
  induction pieces with
  | nil => rfl
  | cons p rest ih =>
    rw [List.flatMap_cons, values_append]
    -- pieces are resolved from the left, so an unset name hides those after it
    cases hvalue : p.value env with
    | some v =>
      have hjoin : (substituted env (p :: rest)).toList =
          v.toList ++ (substituted env rest).toList := by
        rw [substituted, substituted, String.toList_join, String.toList_join, List.map_cons,
          List.flatMap_cons, hvalue, Option.getD_some]
      rw [values_segments hvalue, firstUnset_of_value hvalue, ih, hjoin]
      cases firstUnset env rest <;> rfl
    | none =>
      obtain ⟨name, hname, hunset⟩ := exists_name_of_value hvalue
      rw [values_segments_of_unset hname hunset, firstUnset_of_unset hname hunset]
      rfl

end Piece

open Piece

/-- **A text is expanded piece by piece.** If every variable that it refers to has a value, the
literal text and the dollar signs stay and each reference becomes its value, which is not expanded
again. Otherwise the first variable without a value is named. -/
theorem GenerationSettings.resolve_written (env : Environment) {pieces : List Piece}
    (h : AllFit pieces) :
    resolve env (String.ofList (written pieces)) =
      match firstUnset env pieces with
      | some name => .error (.missingVariable name)
      | none => .ok (substituted env pieces) := by
  rw [resolve, Environment.expand, String.toList_ofList, split_written h, values_pieces]
  cases firstUnset env pieces with
  | some name => rfl
  | none => exact congrArg Except.ok (String.ofList_toList)

/-- Two references, of which the first has a value that looks like another one, and two dollar signs
between them. -/
def Piece.sample : List Piece := [.bare "HOST", .literal ":", .dollar, .dollar, .braced "PORT"]

theorem GenerationSettings.resolve_written_sample :
    AllFit Piece.sample ∧ String.ofList (written Piece.sample) = "$HOST:$$$\x7bPORT\x7d" ∧
      resolve (.ofEntries [("HOST", "$PORT"), ("PORT", "5432")]) (.ofList (written Piece.sample)) =
        .ok "$PORT:$$5432" ∧
      resolve (.ofEntries [("PORT", "5432")]) (.ofList (written Piece.sample)) =
        .error (.missingVariable "HOST") := by
  have hcolon : Segment.isNameChar ':' = false := by decide +kernel
  have hdollar : Segment.isNameChar '$' = false := by decide +kernel
  have hname : ∀ c ∈ "HOST".toList, Segment.isNameChar c = true :=
    List.all_eq_true.mp (by decide +kernel)
  have hliteral : '$' ∉ ":".toList := by decide
  have hbraced : '\x7d' ∉ "PORT".toList := by decide
  have hfit : AllFit Piece.sample := by
    refine ⟨⟨by decide, hname, ?_⟩, hliteral, ?_, ?_, hbraced, trivial⟩
    · rintro c ⟨⟩
      exact hcolon
    · rintro c ⟨⟩
      exact ⟨by decide, hdollar⟩
    · rintro c ⟨⟩
      exact ⟨by decide, hdollar⟩
  exact ⟨hfit, by decide, resolve_written _ hfit, resolve_written _ hfit⟩

end VisualQuery
