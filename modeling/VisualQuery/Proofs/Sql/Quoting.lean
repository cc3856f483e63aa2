import VisualQuery.Sql.Token

/-!
# Quoted identifiers are read back

The name of a table or a column may be any text, and it may hold quotes in any number and at any
place. Could such a name end its quoted region early, so that the rest of it is read as SQL?

Whoever reads SQL takes a doubled quote inside a quoted region for one quote of the name, and a
quote that is not doubled for the end (`Text.readQuoted`). This reader looks at two characters at a
time and has to stay in step with the doubled quotes. It does, whatever comes behind the name: it
passes the doubled text and then goes on with what follows (`Text.readInside_doubled_append`, the
one induction here). The closing quote comes next, and it ends the region unless another quote
follows it. So the region ends where it should in front of anything but a quote, and in front of a
quote it only ever ends later (`Text.Encloses`).

A name behind its schema is two such regions with a point between them. They are told apart unless
the point itself is the quote: then it doubles the quote that should close the schema, which is not
read back (`readQuoted_point`).
-/

namespace VisualQuery

namespace Text

/-! ### The reader -/

/-- Reads on behind an opening quote, up to the quote that closes: a doubled quote is one quote of
the text. Returns the text and what is left behind it. -/
def readInside (q : Char) : List Char → Option (List Char × List Char)
  | [] => none
  | [c] => if c = q then some ([], []) else none
  | c :: d :: rest =>
    if c = q then
      if d = q then (readInside q rest).map (Prod.map (q :: ·) id) else some ([], d :: rest)
    else (readInside q (d :: rest)).map (Prod.map (c :: ·) id)

/-- Reads a text between quotes. -/
def readQuoted (q : Char) : List Char → Option (List Char × List Char)
  | [] => none
  | c :: rest => if c = q then readInside q rest else none

/-- Reads two texts between quotes, with a point between them. -/
def readQualified (q : Char) (cs : List Char) : Option ((List Char × List Char) × List Char) :=
  match readQuoted q cs with
  | some (schema, '.' :: rest) => (readQuoted q rest).map (Prod.map (schema, ·) id)
  | _ => none

/-- **A text encloses a name between quotes.** -/
structure Encloses (q : Char) (text name : String) : Prop where
  /-- It is read as the name, and exactly to its end, in front of whatever does not start with a
  quote. -/
  read : ∀ left : List Char, left.head? ≠ some q →
    readQuoted q (text.toList ++ left) = some (name.toList, left)
  /-- Whatever follows, the region does not end inside the text. -/
  not_early : ∀ left inside rest : List Char,
    readQuoted q (text.toList ++ left) = some (inside, rest) → rest <:+ left

/-! ### Steps of the reader -/

variable {q c : Char} {left rest : List Char}

theorem readInside_cons_of_ne (h : c ≠ q) :
    readInside q (c :: rest) = (readInside q rest).map (Prod.map (c :: ·) id) := by
  cases rest with
  | nil => exact if_neg h
  | cons d rest => exact if_neg h

theorem readInside_doubled : readInside q (q :: q :: rest) =
    (readInside q rest).map (Prod.map (q :: ·) id) := by
  rw [readInside, if_pos rfl, if_pos rfl]

theorem readInside_closing (h : left.head? ≠ some q) :
    readInside q (q :: left) = some ([], left) := by
  cases left with
  | nil => rw [readInside, if_pos rfl]
  | cons d left =>
    have hd : d ≠ q := fun heq => h (congrArg some heq)
    rw [readInside, if_pos rfl, if_neg hd]

/-- What is left is the end of what was read. -/
theorem readInside_suffix {cs inside : List Char} (h : readInside q cs = some (inside, left)) :
    left <:+ cs := by
  fun_induction readInside q cs generalizing inside with
  | case1 => exact absurd h.symm (Option.some_ne_none _)
  | case2 =>
    obtain ⟨-, rfl⟩ := Prod.mk.inj (Option.some.inj h)
    exact List.nil_suffix
  | case3 c hc => exact absurd h.symm (Option.some_ne_none _)
  -- a doubled quote: two characters are read as one of the name
  | case4 rest ih =>
    obtain ⟨⟨inside', left'⟩, hrest, heq⟩ := Option.map_eq_some_iff.mp h
    obtain ⟨-, rfl⟩ := Prod.mk.inj heq
    exact ((ih hrest).trans (List.suffix_cons q rest)).trans (List.suffix_cons q _)
  -- a single quote ends the name, and the rest is what follows it
  | case5 d rest hd =>
    obtain ⟨-, rfl⟩ := Prod.mk.inj (Option.some.inj h)
    exact List.suffix_cons _ _
  | case6 c d rest hc ih =>
    obtain ⟨⟨inside', left'⟩, hrest, heq⟩ := Option.map_eq_some_iff.mp h
    obtain ⟨-, rfl⟩ := Prod.mk.inj heq
    exact (ih hrest).trans (List.suffix_cons _ _)

/-- Behind the closing quote, the region either ends or goes on with what follows. -/
theorem readInside_closing_suffix {inside : List Char}
    (h : readInside q (q :: left) = some (inside, rest)) : rest <:+ left := by
  -- whether this quote closes the name depends on the character after it
  by_cases hleft : left.head? = some q
  · obtain ⟨left, rfl⟩ : ∃ t, left = q :: t := by
      cases left with
      | nil => exact absurd hleft (Option.some_ne_none q).symm
      | cons d t => exact ⟨t, congrArg (· :: t) (Option.some.inj hleft)⟩
    rw [readInside_doubled] at h
    obtain ⟨⟨inside', rest'⟩, hread, heq⟩ := Option.map_eq_some_iff.mp h
    obtain ⟨-, rfl⟩ := Prod.mk.inj heq
    exact (readInside_suffix hread).trans (List.suffix_cons q left)
  · rw [readInside_closing hleft] at h
    obtain ⟨-, rfl⟩ := Prod.mk.inj (Option.some.inj h)
    exact List.suffix_refl left

/-! ### Doubled quotes -/

/-- A text with every quote in it written twice. -/
def doubled (q : Char) (text : List Char) : List Char :=
  text.flatMap fun c => if c = q then [q, q] else [c]

/-- Replacement of a single character looks at one character at a time. -/
theorem replaceAll_singleton (q : Char) (cs : List Char) :
    replaceAll [q] [q, q] cs = doubled q cs := by
  induction cs with
  | nil => rfl
  | cons c cs ih =>
    -- a pattern of one character is found where that character stands
    have hfirst : [q].isPrefixOf (c :: cs) = (q == c) := by
      rw [List.isPrefixOf, List.isPrefixOf, Bool.and_true]
    rw [replaceAll, replaceFrom, hfirst, doubled, List.flatMap_cons]
    by_cases hc : c = q
    · rw [if_pos hc, if_pos (beq_iff_eq.mpr hc.symm)]
      exact congrArg ([q, q] ++ ·) ih
    · rw [if_neg hc, if_neg fun h => hc (beq_iff_eq.mp h).symm]
      exact congrArg (c :: ·) ih

/-- **The reader passes a text with doubled quotes**, whatever comes behind it. -/
theorem readInside_doubled_append (q : Char) (text left : List Char) :
    readInside q (doubled q text ++ left) = (readInside q left).map (Prod.map (text ++ ·) id) := by
  induction text with
  | nil => exact Option.map_id_apply.symm
  | cons c text ih =>
    have hmap : ∀ o : Option (List Char × List Char),
        (o.map (Prod.map (text ++ ·) id)).map (Prod.map (c :: ·) id) =
          o.map (Prod.map (c :: text ++ ·) id) := fun o => Option.map_map _ _ o
    rw [doubled, List.flatMap_cons, List.append_assoc]
    -- a quote in the name was doubled and is read back as one, any other character is itself
    by_cases hc : c = q
    · subst hc
      rw [if_pos rfl]
      show readInside c (c :: c :: (doubled c text ++ left)) = _
      rw [readInside_doubled, ih, hmap]
    · rw [if_neg hc]
      show readInside q (c :: (doubled q text ++ left)) = _
      rw [readInside_cons_of_ne hc, ih, hmap]

end Text

/-! ### Identifiers -/

open Text

variable {q : Char}

theorem quoteIdentifier_toList (hq : isBlank q = false) (name : String) :
    (quoteIdentifier (.singleton q) name).toList = q :: doubled q name.toList ++ [q] := by
  have hblank : isBlankText (.singleton q) = false := by
    rw [isBlankText, String.toList_singleton, List.all_cons, hq, Bool.false_and]
  rw [quoteIdentifier, hblank, if_neg Bool.false_ne_true, String.toList_singleton,
    String.toList_ofList]
  exact congrArg (fun cs => q :: cs ++ [q]) (replaceAll_singleton q name.toList)

/-- Reading a quoted identifier comes to passing its name and reading on at the closing quote. -/
theorem readQuoted_quoteIdentifier (hq : isBlank q = false) (name : String) (left : List Char) :
    readQuoted q ((quoteIdentifier (.singleton q) name).toList ++ left) =
      (readInside q (q :: left)).map (Prod.map (name.toList ++ ·) id) := by
  rw [quoteIdentifier_toList hq, List.append_assoc, List.singleton_append, List.cons_append,
    readQuoted, if_pos rfl, readInside_doubled_append]

theorem encloses_quoteIdentifier (hq : isBlank q = false) (name : String) :
    Encloses q (quoteIdentifier (.singleton q) name) name := by
  constructor
  · intro left hleft
    rw [readQuoted_quoteIdentifier hq, readInside_closing hleft, Option.map_some, Prod.map_apply,
      List.append_nil, id_eq]
  · -- if a quote follows, the reader goes on, but never back before the end of the name
    intro left inside rest hread
    rw [readQuoted_quoteIdentifier hq] at hread
    obtain ⟨⟨inside', rest'⟩, hclosing, heq⟩ := Option.map_eq_some_iff.mp hread
    obtain ⟨-, rfl⟩ := Prod.mk.inj heq
    exact readInside_closing_suffix hclosing

/-- What is read back is known. -/
theorem quoteIdentifier_injective (hq : isBlank q = false) :
    Function.Injective (quoteIdentifier (.singleton q)) := by
  intro a b hab
  -- the name can be read back from its quoted form
  have hread : ∀ name, readQuoted q (quoteIdentifier (.singleton q) name).toList =
      some (name.toList, []) := by
    intro name
    have hexact := (encloses_quoteIdentifier hq name).read [] (Option.some_ne_none q).symm
    rwa [List.append_nil] at hexact
  have hboth := hread a
  rw [hab, hread b] at hboth
  exact String.toList_inj.mp (Prod.mk.inj (Option.some.inj hboth)).1.symm

/-! ### Names behind a schema -/

theorem text_qualifiedIdent_append (quote schema name : String) (left : List Char) :
    (Token.text quote (.qualifiedIdent (some schema) name)).toList ++ left =
      (quoteIdentifier quote schema).toList ++
        '.' :: ((quoteIdentifier quote name).toList ++ left) := by
  rw [Token.text, String.toList_append, String.toList_append, List.append_assoc, List.append_assoc]
  rfl

theorem readQualified_text (hq : isBlank q = false) (hpoint : q ≠ '.') (schema name : String)
    {left : List Char} (hleft : left.head? ≠ some q) :
    readQualified q
        ((Token.text (.singleton q) (.qualifiedIdent (some schema) name)).toList ++ left) =
      some ((schema.toList, name.toList), left) := by
  -- the point after the schema is no quote, so the schema ends there
  have hbehind : ∀ rest : List Char, ('.' :: rest).head? ≠ some q := fun _ heq =>
    hpoint (Option.some.inj heq).symm
  rw [text_qualifiedIdent_append, readQualified,
    (encloses_quoteIdentifier hq schema).read _ (hbehind _)]
  show (readQuoted q ((quoteIdentifier _ name).toList ++ left)).map
    (Prod.map (schema.toList, ·) id) = _
  rw [(encloses_quoteIdentifier hq name).read left hleft]
  rfl

/-- **The point as the quote.** The point behind the schema doubles the closing quote, so it is read
as a part of the schema. -/
theorem readQuoted_point (schema name : String) (left rest : List Char) :
    readQuoted '.' ((Token.text "." (.qualifiedIdent (some schema) name)).toList ++ left) ≠
      some (schema.toList, rest) := by
  have hq : isBlank '.' = false := by decide
  intro hread
  rw [text_qualifiedIdent_append] at hread
  change readQuoted '.' ((quoteIdentifier (.singleton '.') schema).toList ++ _) = _ at hread
  rw [readQuoted_quoteIdentifier hq, readInside_doubled, Option.map_map] at hread
  obtain ⟨⟨inside, rest'⟩, -, heq⟩ := Option.map_eq_some_iff.mp hread
  -- the text that is read is longer than the schema
  have hlength := congrArg (fun p => p.1.length) heq
  change (schema.toList ++ '.' :: inside).length = schema.toList.length at hlength
  rw [List.length_append, List.length_cons] at hlength
  omega

/-! ### No name leaves its quotes -/

/-- **Names cannot leave their quotes.** Between quotes of one character that is not blank, every
name is read back in front of whatever does not start with a quote, and different names are written
differently. This holds of the names of columns in every dialect, of names of tables, and of each
part of a name behind its schema. The two parts are also read one after the other, unless the point
between them is the quote. -/
theorem quoted_names_read (hq : isBlank q = false) :
    (∀ name, Encloses q (quoteIdentifier (.singleton q) name) name) ∧
      Function.Injective (quoteIdentifier (.singleton q)) ∧
      (∀ (d : Dialect) (x : Item), x.kind = .column →
        Encloses q (d.itemText (.singleton q) x) x.name) ∧
      (∀ name, Encloses q (Token.text (.singleton q) (.ident name)) name ∧
        Encloses q (Token.text (.singleton q) (.qualifiedIdent none name)) name) ∧
      (∀ schema name, ∃ first second,
        Token.text (.singleton q) (.qualifiedIdent (some schema) name) = first ++ "." ++ second ∧
          Encloses q first schema ∧ Encloses q second name) ∧
      (q ≠ '.' → ∀ (schema name : String) (left : List Char), left.head? ≠ some q →
        readQualified q
            ((Token.text (.singleton q) (.qualifiedIdent (some schema) name)).toList ++ left) =
          some ((schema.toList, name.toList), left)) := by
  have hall := encloses_quoteIdentifier hq
  refine ⟨hall, quoteIdentifier_injective hq, ?_, fun name => ⟨hall name, hall name⟩, ?_, ?_⟩
  · intro d x hx
    rw [Dialect.itemText, hx]
    exact hall x.name
  · intro schema name
    exact ⟨_, _, rfl, hall schema, hall name⟩
  · intro hpoint schema name left hleft
    exact readQualified_text hq hpoint schema name hleft

/-- A name with a quote at its end and one inside, in front of a blank. -/
theorem quoted_names_read_sample :
    isBlank '"' = false ∧
      quoteIdentifier (.singleton '"') "a\"b\"" = "\"a\"\"b\"\"\"" ∧
      readQuoted '"' ((quoteIdentifier (.singleton '"') "a\"b\"").toList ++ " AS c".toList) =
        some ("a\"b\"".toList, " AS c".toList) :=
  ⟨by decide, by decide,
    ((quoted_names_read (q := '"') (by decide)).1 "a\"b\"").read " AS c".toList (by decide)⟩

end VisualQuery
