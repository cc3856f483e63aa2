import VisualQuery.Proofs.Sql.FromClause

/-!
# Reading statements back

What does a statement say, to one who has only its tokens? A clause is opened by its keyword and
reaches to the next such keyword (`Token.sections`), and its parts stand between separators
(`Token.under`). This reader knows nothing of statements or queries. A filter or a name that the
user wrote is one token to it, whatever its text is.

A statement is its clauses, one behind the other (`Statement.words_tokens`), and they are read back
from its tokens if the parts can be told apart (`Statement.Readable.clauses_words`): no token of a
part opens a clause or separates parts. The conditions of joins are separated like filters are, but
they stand behind `FROM`, where this reader looks for no parts.
-/

namespace VisualQuery

namespace Token

/-! ### The reader -/

/-- Whether a token is the keyword of a clause. -/
def opensClause : Token → Bool
  | .select | .from' | .where' | .groupBy | .having | .orderBy => true
  | _ => false

/-- Whether a token is the keyword of a join. -/
def opensJoin : Token → Bool
  | .join _ => true
  | _ => false

/-- Whether a token is the keyword of a clause or of a join. -/
def opensPart (t : Token) : Bool := t.opensClause || t.opensJoin

/-- The tokens apart from spaces. -/
def words (tokens : List Token) : List Token := tokens.filter (· ≠ .space)

/-- The sections: each token that opens one, with the tokens up to the next such token. -/
def sections (opens : Token → Bool) : List Token → List (Token × List Token)
  | [] => []
  | t :: rest =>
    if opens t then (t, rest.takeWhile (!opens ·)) :: sections opens rest else sections opens rest

/-- The clauses: each keyword with the tokens up to the next one. -/
def clauses : List Token → List (Token × List Token) := sections opensClause

/-- The parts of those clauses that have a keyword. -/
def partsOf (keyword separator : Token) (cs : List (Token × List Token)) : List (List Token) :=
  (cs.filter (·.1 = keyword)).flatMap (·.2.splitOn separator)

/-- The parts that stand between separators behind a keyword. -/
def under (keyword separator : Token) (tokens : List Token) : List (List Token) :=
  partsOf keyword separator (clauses (words tokens))

/-! ### Words and separators -/

theorem words_append (as bs : List Token) : words (as ++ bs) = words as ++ words bs :=
  List.filter_append as bs

theorem words_separated (separator : List Token) (parts : List (List Token)) :
    words (separated separator parts) = separated (words separator) (parts.map words) := by
  rw [separated, separated]
  induction parts with
  | nil => rfl
  | cons part rest ih =>
    -- a separator follows only if there is another part
    cases rest with
    | nil => rw [List.map_singleton, List.intercalate_singleton, List.intercalate_singleton]
    | cons next rest =>
      rw [List.intercalate_cons_cons, words_append, words_append, ih]
      exact List.intercalate_cons_cons.symm

/-! ### Sections put one behind the other -/

section Sections

variable {opens : Token → Bool}

/-- The tokens of sections. -/
def sectionTokens (cs : List (Token × List Token)) : List Token := cs.flatMap fun c => c.1 :: c.2

theorem sectionTokens_append (as bs : List (Token × List Token)) :
    sectionTokens (as ++ bs) = sectionTokens as ++ sectionTokens bs := List.flatMap_append

/-- Tokens none of which opens a section. -/
def IsBody (opens : Token → Bool) (tokens : List Token) : Prop := ∀ t ∈ tokens, opens t = false

theorem IsBody.append {as bs : List Token} (has : IsBody opens as) (hbs : IsBody opens bs) :
    IsBody opens (as ++ bs) :=
  List.forall_mem_append.mpr ⟨has, hbs⟩

theorem IsBody.words {tokens : List Token} (h : IsBody opens tokens) :
    IsBody opens (words tokens) :=
  fun t ht => h t (List.mem_of_mem_filter ht)

theorem IsBody.mono {opens' : Token → Bool} {tokens : List Token} (h : IsBody opens' tokens)
    (hopens : ∀ t, opens t = true → opens' t = true) : IsBody opens tokens :=
  fun t ht => Bool.eq_false_iff.mpr fun htrue =>
    Bool.eq_false_iff.mp (h t ht) (hopens t htrue)

theorem IsBody.isBody_opensClause {tokens : List Token} (h : IsBody opensPart tokens) :
    IsBody opensClause tokens :=
  h.mono fun _ ht => Bool.or_eq_true_iff.mpr (.inl ht)

theorem IsBody.isBody_opensJoin {tokens : List Token} (h : IsBody opensPart tokens) :
    IsBody opensJoin tokens :=
  h.mono fun _ ht => Bool.or_eq_true_iff.mpr (.inr ht)

theorem isBody_separated {separator : List Token} (hseparator : IsBody opens separator)
    {parts : List (List Token)} (h : ∀ p ∈ parts, IsBody opens p) :
    IsBody opens (separated separator parts) := by
  rw [separated]
  induction parts with
  | nil => exact fun t ht => absurd ht List.not_mem_nil
  | cons part rest ih =>
    obtain ⟨hpart, hrest⟩ := List.forall_mem_cons.mp h
    -- a separator follows only if there is another part
    cases rest with
    | nil =>
      rw [List.intercalate_singleton]
      exact hpart
    | cons next rest =>
      rw [List.intercalate_cons_cons]
      exact (hpart.append hseparator).append (ih hrest)

theorem IsBody.takeWhile_append {body : List Token} (h : IsBody opens body) (rest : List Token) :
    (body ++ rest).takeWhile (!opens ·) = body ++ rest.takeWhile (!opens ·) :=
  List.takeWhile_append_of_pos fun t ht => by simp [h t ht]

theorem IsBody.sections_append {body : List Token} (h : IsBody opens body) (rest : List Token) :
    sections opens (body ++ rest) = sections opens rest := by
  induction body with
  | nil => rfl
  | cons t body ih =>
    rw [List.cons_append, sections, if_neg (by simp [h t List.mem_cons_self])]
    exact ih fun u hu => h u (List.mem_cons_of_mem _ hu)

/-- What opens a section, and behind it nothing that opens another one. -/
def IsSection (opens : Token → Bool) (c : Token × List Token) : Prop :=
  opens c.1 = true ∧ IsBody opens c.2

/-- **Sections put one behind the other are read back.** -/
theorem sections_sectionTokens {cs : List (Token × List Token)}
    (h : ∀ c ∈ cs, IsSection opens c) : sections opens (sectionTokens cs) = cs := by
  induction cs with
  | nil => rfl
  | cons c cs ih =>
    obtain ⟨hopens, hbody⟩ := h c List.mem_cons_self
    have hcs : ∀ d ∈ cs, IsSection opens d := fun d hd => h d (List.mem_cons_of_mem _ hd)
    -- the body of the section ends where the next one begins
    have hend : (sectionTokens cs).takeWhile (!opens ·) = [] := by
      cases cs with
      | nil => rfl
      | cons d cs =>
        rw [sectionTokens, List.flatMap_cons, List.cons_append,
          List.takeWhile_cons_of_neg (by simp [(hcs d List.mem_cons_self).1])]
    have htokens : sectionTokens (c :: cs) = c.1 :: (c.2 ++ sectionTokens cs) := rfl
    rw [htokens, sections, if_pos hopens, hbody.takeWhile_append, hend, List.append_nil,
      hbody.sections_append, ih hcs]

end Sections

theorem partsOf_append (keyword separator : Token) (as bs : List (Token × List Token)) :
    partsOf keyword separator (as ++ bs) =
      partsOf keyword separator as ++ partsOf keyword separator bs := by
  rw [partsOf, List.filter_append, List.flatMap_append, partsOf, partsOf]

theorem partsOf_of_ne {keyword : Token} (separator : Token) {cs : List (Token × List Token)}
    (h : ∀ c ∈ cs, c.1 ≠ keyword) : partsOf keyword separator cs = [] := by
  have hnone : cs.filter (·.1 = keyword) = [] :=
    List.filter_eq_nil_iff.mpr fun c hc => by simp [h c hc]
  rw [partsOf, hnone, List.flatMap_nil]

/-! ### Clauses of a list of parts -/

/-- **Tokens of one part.** None of them opens a clause or separates parts. -/
def IsPart (tokens : List Token) : Prop :=
  ∀ t ∈ tokens, t.opensClause = false ∧ t ≠ .comma ∧ t ≠ .and

theorem IsPart.append {as bs : List Token} (has : IsPart as) (hbs : IsPart bs) :
    IsPart (as ++ bs) :=
  List.forall_mem_append.mpr ⟨has, hbs⟩

theorem IsPart.words {tokens : List Token} (h : IsPart tokens) : IsPart (words tokens) :=
  fun t ht => h t (List.mem_of_mem_filter ht)

theorem IsPart.map_words {parts : List (List Token)} (h : ∀ p ∈ parts, IsPart p) :
    ∀ p ∈ parts.map Token.words, IsPart p :=
  List.forall_mem_map.mpr fun p hp => (h p hp).words

theorem IsPart.isBody {tokens : List Token} (h : IsPart tokens) : IsBody opensClause tokens :=
  fun t ht => (h t ht).1

/-! ### Operands -/

/-- Whether a token may stand in an operand: a name, a text, or the point behind a qualifier. -/
def inOperand : Token → Bool
  | .ident _ | .aliasName _ | .raw _ | .dot => true
  | _ => false

/-- **Tokens of an operand.** They are at least one, and none of them is a keyword, a separator or a
space. -/
structure IsOperand (tokens : List Token) : Prop where
  /-- There is a token. -/
  nonempty : tokens ≠ []
  /-- Each of them may stand there. -/
  inOperand : ∀ t ∈ tokens, t.inOperand = true

theorem IsOperand.forall_mem {tokens : List Token} (h : IsOperand tokens) {P : Token → Prop}
    (hP : ∀ t, t.inOperand = true → P t) : ∀ t ∈ tokens, P t :=
  fun t ht => hP t (h.inOperand t ht)

theorem IsOperand.isPart {tokens : List Token} (h : IsOperand tokens) : IsPart tokens :=
  h.forall_mem fun t ht => by cases t <;> simp_all [Token.inOperand, opensClause]

theorem IsOperand.words_eq {tokens : List Token} (h : IsOperand tokens) :
    Token.words tokens = tokens :=
  List.filter_eq_self.mpr <| h.forall_mem fun t ht => by cases t <;> simp_all [Token.inOperand]

theorem IsOperand.isBody {tokens : List Token} (h : IsOperand tokens) : IsBody opensPart tokens :=
  h.forall_mem fun t ht => by
    cases t <;> simp_all [Token.inOperand, opensPart, opensClause, opensJoin]

/-- The clause with a list of parts; none if the list is empty. -/
def clauseOf (keyword separator : Token) (parts : List (List Token)) :
    List (Token × List Token) :=
  if parts.isEmpty then [] else [(keyword, separated [separator] parts)]

theorem mem_clauseOf {keyword separator : Token} {parts : List (List Token)}
    {c : Token × List Token} (hc : c ∈ clauseOf keyword separator parts) :
    c = (keyword, separated [separator] parts) := by
  rw [clauseOf] at hc
  split at hc
  · exact absurd hc List.not_mem_nil
  · exact List.mem_singleton.mp hc

theorem isSection_clauseOf {keyword separator : Token} (hkeyword : keyword.opensClause = true)
    (hseparator : separator.opensClause = false) {parts : List (List Token)}
    (h : ∀ p ∈ parts, IsPart p) :
    ∀ c ∈ clauseOf keyword separator parts, IsSection opensClause c := by
  intro c hc
  rw [mem_clauseOf hc]
  refine ⟨hkeyword, isBody_separated ?_ fun p hp => (h p hp).isBody⟩
  exact fun t ht => List.mem_singleton.mp ht ▸ hseparator

theorem partsOf_clauseOf_of_ne {keyword keyword' : Token} (hne : keyword' ≠ keyword)
    (separator separator' : Token) (parts : List (List Token)) :
    partsOf keyword separator (clauseOf keyword' separator' parts) = [] := by
  refine partsOf_of_ne separator fun c hc => ?_
  rw [mem_clauseOf hc]
  exact hne

/-- The parts of a clause are read back. -/
theorem partsOf_clauseOf (keyword : Token) {separator : Token}
    (hseparator : separator = .comma ∨ separator = .and) {parts : List (List Token)}
    (h : ∀ p ∈ parts, IsPart p) :
    partsOf keyword separator (clauseOf keyword separator parts) = parts := by
  -- no part has the separator at its own level, so splitting there undoes the joining
  have hapart : ∀ p ∈ parts, separator ∉ p := fun p hp hmem =>
    hseparator.elim (h p hp separator hmem).2.1 (h p hp separator hmem).2.2
  rw [clauseOf]
  cases parts with
  | nil => rfl
  | cons p rest =>
    have hself : [(keyword, separated [separator] (p :: rest))].filter (·.1 = keyword) =
        [(keyword, separated [separator] (p :: rest))] := by simp
    rw [List.isEmpty_cons, if_neg Bool.false_ne_true, partsOf, hself, List.flatMap_singleton]
    exact List.splitOn_intercalate separator hapart (List.cons_ne_nil p rest)

end Token

open Token (IsBody IsOperand IsPart IsSection opensClause opensPart words under)

namespace Statement

/-! ### Statements as clauses -/

/-- The tokens behind the keyword of the tables. -/
def tablesTokens (f : FromClause) : List Token :=
  tableTokens f.first ++ f.joined.flatMap joinedTokens

/-- The clause of the tables. -/
def tablesClause (tables : Option FromClause) : List (Token × List Token) :=
  tables.toList.map fun f => (.from', words (tablesTokens f))

/-- The clauses of a statement. -/
def clauses (s : Statement) : List (Token × List Token) :=
  Token.clauseOf .select .comma ((s.members.map memberTokens).map words) ++
    tablesClause s.tables ++
    Token.clauseOf .where' .and (s.filters.map words) ++
    Token.clauseOf .groupBy .comma (s.groupKeys.map words) ++
    Token.clauseOf .having .and (s.groupFilters.map words) ++
    Token.clauseOf .orderBy .comma ((s.sortKeys.map sortKeyTokens).map words)

/-- **Statements that can be read back.** Something is selected, and each expression is in one
part. -/
structure Readable (s : Statement) : Prop where
  /-- Something is selected. -/
  nonempty : s.members ≠ []
  /-- The members of the selection. -/
  members : ∀ m ∈ s.members, IsPart m.expr
  /-- The two sides of the conditions. -/
  conditions : ∀ table ∈ s.joined, ∀ c ∈ table.conditions, IsOperand c.left ∧ IsOperand c.right
  /-- The filters. -/
  filters : ∀ e ∈ s.filters, IsPart e
  /-- The grouping keys. -/
  groupKeys : ∀ e ∈ s.groupKeys, IsPart e
  /-- The filters on groups. -/
  groupFilters : ∀ e ∈ s.groupFilters, IsPart e
  /-- The sort keys. -/
  sortKeys : ∀ k ∈ s.sortKeys, IsPart k.expr

theorem words_clause {keyword separator : Token} {between : List Token}
    (hkeyword : keyword ≠ .space) (hbetween : words between = [separator])
    (parts : List (List Token)) :
    words (clause keyword between parts) =
      Token.sectionTokens (Token.clauseOf keyword separator (parts.map words)) := by
  rw [clause, Token.clauseOf, List.isEmpty_map]
  cases parts.isEmpty with
  | true => rfl
  | false =>
    -- of the opening only the keyword is a word
    have hopen : words [.space, keyword, .space] = [keyword] := by simp [words, hkeyword]
    rw [if_neg Bool.false_ne_true, if_neg Bool.false_ne_true, Token.words_append,
      Token.words_separated, hbetween, hopen, Token.sectionTokens, List.flatMap_singleton]
    rfl

theorem words_fromTokens (tables : Option FromClause) :
    words (fromTokens tables) = Token.sectionTokens (tablesClause tables) := by
  cases tables with
  | none => rfl
  | some f =>
    have hopen : words [.space, .from', .space] = [.from'] := by decide
    rw [fromTokens, List.append_assoc, Token.words_append, hopen, ← tablesTokens, tablesClause,
      Option.toList_some, List.map_singleton, Token.sectionTokens, List.flatMap_singleton]
    rfl

/-- **A statement is its clauses**, one behind the other. -/
theorem words_tokens {s : Statement} (hne : s.members ≠ []) :
    words s.tokens = Token.sectionTokens s.clauses := by
  have hcomma : words comma = [.comma] := by decide
  have hand : words and = [.and] := by decide
  -- the first clause is written without a space in front, which makes no difference
  have hselect : words ([.select, .space] ++ Token.separated comma (s.members.map memberTokens)) =
      words (clause .select comma (s.members.map memberTokens)) := by
    rw [clause, List.isEmpty_map, List.isEmpty_eq_false_iff.mpr hne]
    rfl
  rw [tokens, clauses]
  simp only [Token.words_append, Token.sectionTokens_append]
  rw [← Token.words_append, hselect, words_clause (by decide) hcomma, words_fromTokens,
    words_clause (by decide) hand, words_clause (by decide) hcomma, words_clause (by decide) hand,
    words_clause (by decide) hcomma]

theorem partsOf_tablesClause {keyword : Token} (hne : .from' ≠ keyword) (separator : Token)
    (tables : Option FromClause) :
    Token.partsOf keyword separator (tablesClause tables) = [] := by
  refine Token.partsOf_of_ne separator fun c hc => ?_
  obtain ⟨f, -, rfl⟩ := List.mem_map.mp hc
  exact hne

/-! ### Statements read back -/

/-- The tokens of a table name hold no keyword. -/
theorem isBody_tableTokens (table : TableRef) : IsBody opensPart (tableTokens table) := by
  rw [tableTokens]
  cases table.aliasName <;> simp [IsBody, opensPart, opensClause, Token.opensJoin]

theorem isBody_conditionTokens {c : Condition} (hleft : IsOperand c.left)
    (hright : IsOperand c.right) : IsBody opensPart (conditionTokens c) :=
  (hleft.isBody.append (by simp [IsBody, opensPart, opensClause, Token.opensJoin])).append
    hright.isBody

theorem isBody_conditionsTokens {cs : List Condition}
    (h : ∀ c ∈ cs, IsOperand c.left ∧ IsOperand c.right) :
    IsBody opensPart (conditionsTokens cs) := by
  rw [conditionsTokens]
  split
  · simp [IsBody, tautology, opensPart, opensClause, Token.opensJoin]
  · refine Token.isBody_separated ?_ ?_
    · simp [IsBody, and, opensPart, opensClause, Token.opensJoin]
    · rw [List.forall_mem_map]
      exact fun c hc => isBody_conditionTokens (h c hc).1 (h c hc).2

theorem isBody_tablesTokens {f : FromClause}
    (h : ∀ table ∈ f.joined, ∀ c ∈ table.conditions, IsOperand c.left ∧ IsOperand c.right) :
    IsBody opensClause (tablesTokens f) := by
  refine (isBody_tableTokens f.first).isBody_opensClause.append fun t ht => ?_
  obtain ⟨table, htable, ht⟩ := List.mem_flatMap.mp ht
  have hjoin : IsBody opensClause [.space, .join table.kind, .space] := by
    simp [IsBody, opensClause]
  have hon : IsBody opensClause [.space, .on, .space] := by simp [IsBody, opensClause]
  exact (((hjoin.append (isBody_tableTokens table.table).isBody_opensClause).append hon).append
    (isBody_conditionsTokens (h table htable)).isBody_opensClause) t ht

theorem isPart_memberTokens {m : Member} (h : IsPart m.expr) : IsPart (memberTokens m) := by
  rw [memberTokens]
  cases m.aliasName with
  | none => exact h
  | some name => exact h.append (by simp [IsPart, Token.opensClause])

theorem isPart_sortKeyTokens {k : SortKey} (h : IsPart k.expr) : IsPart (sortKeyTokens k) := by
  rw [sortKeyTokens]
  cases k.order with
  | unordered => exact h
  | ascending => exact h.append (by simp [IsPart, Token.opensClause])
  | descending => exact h.append (by simp [IsPart, Token.opensClause])

namespace Readable

variable {s : Statement} (h : s.Readable)
include h

theorem isPart_members : ∀ p ∈ s.members.map memberTokens, IsPart p :=
  List.forall_mem_map.mpr fun m hm => isPart_memberTokens (h.members m hm)

theorem isPart_sortKeys : ∀ p ∈ s.sortKeys.map sortKeyTokens, IsPart p :=
  List.forall_mem_map.mpr fun k hk => isPart_sortKeyTokens (h.sortKeys k hk)

theorem clauses_isSection : ∀ c ∈ s.clauses, IsSection opensClause c := by
  have htables : ∀ c ∈ tablesClause s.tables, IsSection opensClause c := by
    intro c hc
    obtain ⟨f, hf, rfl⟩ := List.mem_map.mp hc
    refine ⟨rfl, (isBody_tablesTokens ?_).words⟩
    have hjoined := h.conditions
    rw [joined, Option.mem_toList.mp hf] at hjoined
    exact hjoined
  -- only the clause of the tables is not made of parts
  intro c hc
  simp only [clauses, List.mem_append] at hc
  rcases hc with ((((hc | hc) | hc) | hc) | hc) | hc
  · exact Token.isSection_clauseOf rfl rfl (IsPart.map_words h.isPart_members) c hc
  · exact htables c hc
  · exact Token.isSection_clauseOf rfl rfl (IsPart.map_words h.filters) c hc
  · exact Token.isSection_clauseOf rfl rfl (IsPart.map_words h.groupKeys) c hc
  · exact Token.isSection_clauseOf rfl rfl (IsPart.map_words h.groupFilters) c hc
  · exact Token.isSection_clauseOf rfl rfl (IsPart.map_words h.isPart_sortKeys) c hc

/-- **The clauses of a statement are read back from its tokens.** -/
theorem clauses_words : Token.clauses (words s.tokens) = s.clauses := by
  rw [words_tokens h.nonempty, Token.clauses, Token.sections_sectionTokens h.clauses_isSection]

-- Below, the clauses with other keywords drop out, and the parts of the one that is left are apart.

theorem under_select :
    under .select .comma s.tokens = (s.members.map memberTokens).map words := by
  rw [under, h.clauses_words, clauses]
  simp (disch := decide) only [Token.partsOf_append, partsOf_tablesClause,
    Token.partsOf_clauseOf_of_ne, List.append_nil]
  exact Token.partsOf_clauseOf _ (.inl rfl) (IsPart.map_words h.isPart_members)

theorem under_where : under .where' .and s.tokens = s.filters.map words := by
  rw [under, h.clauses_words, clauses]
  simp (disch := decide) only [Token.partsOf_append, partsOf_tablesClause,
    Token.partsOf_clauseOf_of_ne, List.append_nil, List.nil_append]
  exact Token.partsOf_clauseOf _ (.inr rfl) (IsPart.map_words h.filters)

theorem under_groupBy : under .groupBy .comma s.tokens = s.groupKeys.map words := by
  rw [under, h.clauses_words, clauses]
  simp (disch := decide) only [Token.partsOf_append, partsOf_tablesClause,
    Token.partsOf_clauseOf_of_ne, List.append_nil, List.nil_append]
  exact Token.partsOf_clauseOf _ (.inl rfl) (IsPart.map_words h.groupKeys)

theorem under_having : under .having .and s.tokens = s.groupFilters.map words := by
  rw [under, h.clauses_words, clauses]
  simp (disch := decide) only [Token.partsOf_append, partsOf_tablesClause,
    Token.partsOf_clauseOf_of_ne, List.append_nil, List.nil_append]
  exact Token.partsOf_clauseOf _ (.inr rfl) (IsPart.map_words h.groupFilters)

theorem under_orderBy :
    under .orderBy .comma s.tokens = (s.sortKeys.map sortKeyTokens).map words := by
  rw [under, h.clauses_words, clauses]
  simp (disch := decide) only [Token.partsOf_append, partsOf_tablesClause,
    Token.partsOf_clauseOf_of_ne, List.nil_append]
  exact Token.partsOf_clauseOf _ (.inl rfl) (IsPart.map_words h.isPart_sortKeys)

end Readable

/-- The keywords of the clauses are in this order, and none of them comes twice. -/
theorem clauses_keywords (s : Statement) :
    (s.clauses.map (·.1)).Sublist [.select, .from', .where', .groupBy, .having, .orderBy] := by
  -- a clause is either left out or stands under its keyword, so the order is that of writing
  have hclause : ∀ (keyword separator : Token) (parts : List (List Token)),
      ((Token.clauseOf keyword separator parts).map (·.1)).Sublist [keyword] := by
    intro keyword separator parts
    rw [Token.clauseOf]
    split
    · exact List.nil_sublist _
    · exact List.Sublist.refl _
  have htables : ((tablesClause s.tables).map (·.1)).Sublist [.from'] := by
    rw [tablesClause]
    cases s.tables with
    | none => exact List.nil_sublist _
    | some f => exact List.Sublist.refl _
  simp only [clauses, List.map_append]
  exact (((((hclause _ _ _).append htables).append (hclause _ _ _)).append
    (hclause _ _ _)).append (hclause _ _ _)).append (hclause _ _ _)

end Statement

end VisualQuery
