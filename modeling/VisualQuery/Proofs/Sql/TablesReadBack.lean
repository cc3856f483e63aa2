import Mathlib.Data.List.DropRight
import VisualQuery.Proofs.Sql.ReadBack

/-!
# Reading tables back

Behind `FROM` stands a table, and behind the keyword of each join another one with its conditions.
The reader of this module cuts the tokens there at these keywords (`Token.readTables?`), and those
of a joined table at `ON`. What is left between the cuts is read without the spaces around it. Like
the reader of clauses, it knows nothing of statements or queries.

The spaces are what makes the cuts inexact: the space in front of a keyword belongs to what is
before the keyword, and a clause that follows leaves one behind the last table. So a part is read
back from any spaces around it (`Token.trimmed_append`). For this it must not begin or end with a
space itself, which holds of tables and conditions since operands have no spaces at all.

The tables of a statement and the tokens of their conditions are read back from its tokens
(`Statement.Readable.readTables?_tokens`), and so are the conditions one by one
(`Statement.conditions_part`).
-/

namespace VisualQuery

namespace Token

/-! ### The reader -/

/-- The tokens without the spaces around them. -/
def trimmed (tokens : List Token) : List Token :=
  (tokens.dropWhile (· = .space)).rdropWhile (· = .space)

/-- A joined table as it is read. -/
structure JoinedPart where
  /-- The keyword in front of it. -/
  keyword : Token
  /-- The tokens that name it. -/
  table : List Token
  /-- The tokens behind its `ON`. -/
  on : List Token

/-- The tables behind `FROM` as they are read. -/
structure TablesPart where
  /-- The tokens that name the first one. -/
  first : List Token
  /-- The ones that are joined to it. -/
  joined : List JoinedPart

/-- A joined table: the keyword, what stands before `ON`, and what stands behind it. -/
def joinedPart (c : Token × List Token) : JoinedPart :=
  ⟨c.1, trimmed (c.2.takeWhile (· ≠ .on)), trimmed ((c.2.dropWhile (· ≠ .on)).drop 1)⟩

/-- The tables: one in front of the first join, and one for each join. -/
def tablesPart (body : List Token) : TablesPart :=
  ⟨trimmed (body.takeWhile (!opensJoin ·)), (sections opensJoin body).map joinedPart⟩

/-- The tables behind `FROM`, up to the next clause. -/
def readTables? (tokens : List Token) : Option TablesPart :=
  match tokens.dropWhile (· ≠ .from') with
  | [] => none
  | _ :: rest => some (tablesPart (rest.takeWhile (!opensClause ·)))

/-- The joined tables that are read, none without `FROM`. -/
def joinedParts (tokens : List Token) : List JoinedPart :=
  ((readTables? tokens).map (·.joined)).getD []

/-- The tokens of each table that is read, none without `FROM`. -/
def tableParts (tokens : List Token) : List (List Token) :=
  ((readTables? tokens).map fun p => p.first :: p.joined.map (·.table)).getD []

/-- The condition that always holds. -/
def zeroIsZero : List Token := [.int 0, .space, .comparator .eq, .space, .int 0]

/-- The words of each condition, none if the table is joined on the one that always holds. -/
def JoinedPart.conditions (p : JoinedPart) : List (List Token) :=
  if p.on = zeroIsZero then [] else (words p.on).splitOn .and

/-! ### Spaces around a part -/

/-- Only spaces. -/
def IsBlank (tokens : List Token) : Prop := ∀ t ∈ tokens, t = .space

/-- **Tokens with no spaces around them.** -/
structure IsTrimmed (tokens : List Token) : Prop where
  /-- The first one is not a space. -/
  first : ∃ t, tokens.head? = some t ∧ t ≠ .space
  /-- The last one is not a space. -/
  last : ∃ t, tokens.getLast? = some t ∧ t ≠ .space

theorem IsTrimmed.ne_nil {tokens : List Token} (h : IsTrimmed tokens) : tokens ≠ [] := by
  rintro rfl
  obtain ⟨t, ht, -⟩ := h.first
  exact absurd ht (by simp)

theorem IsTrimmed.append {as bs : List Token} (has : IsTrimmed as) (hbs : IsTrimmed bs)
    (between : List Token) : IsTrimmed (as ++ between ++ bs) := by
  obtain ⟨a, ha, hane⟩ := has.first
  obtain ⟨b, hb, hbne⟩ := hbs.last
  exact ⟨⟨a, by simp [ha], hane⟩, ⟨b, by simp [hb], hbne⟩⟩

theorem isTrimmed_separated {separator : List Token} {parts : List (List Token)} (hne : parts ≠ [])
    (h : ∀ p ∈ parts, IsTrimmed p) : IsTrimmed (separated separator parts) := by
  rw [separated]
  induction parts with
  | nil => exact absurd rfl hne
  | cons part rest ih =>
    obtain ⟨hpart, hrest⟩ := List.forall_mem_cons.mp h
    -- a separator follows only if there is another part
    cases rest with
    | nil => rwa [List.intercalate_singleton]
    | cons next rest =>
      rw [List.intercalate_cons_cons]
      exact hpart.append (ih (List.cons_ne_nil _ _) hrest) separator

theorem IsOperand.isTrimmed {tokens : List Token} (h : IsOperand tokens) : IsTrimmed tokens := by
  have hspace : ∀ t ∈ tokens, t ≠ .space :=
    h.forall_mem fun t ht => by cases t <;> simp_all [Token.inOperand]
  exact ⟨⟨_, List.head?_eq_some_head h.nonempty, hspace _ (List.head_mem _)⟩,
    ⟨_, List.getLast?_eq_some_getLast h.nonempty, hspace _ (List.getLast_mem _)⟩⟩

theorem dropWhile_isBlank {before tokens : List Token} (hbefore : IsBlank before)
    (h : ∃ t, tokens.head? = some t ∧ t ≠ .space) :
    (before ++ tokens).dropWhile (· = .space) = tokens := by
  obtain ⟨t, ht, hne⟩ := h
  obtain ⟨rest, rfl⟩ := List.head?_eq_some_iff.mp ht
  rw [List.dropWhile_append_of_pos fun u hu => decide_eq_true (hbefore u hu),
    List.dropWhile_cons_of_neg (by simp [hne])]

/-- **A part is read back from the spaces around it.** -/
theorem trimmed_append {before tokens after : List Token} (hbefore : IsBlank before)
    (h : IsTrimmed tokens) (hafter : IsBlank after) :
    trimmed (before ++ tokens ++ after) = tokens := by
  -- the first token of the part is no space, so trimming stops at it
  have hfirst : ∃ t, (tokens ++ after).head? = some t ∧ t ≠ .space := by
    obtain ⟨t, ht, hne⟩ := h.first
    exact ⟨t, by simp [ht], hne⟩
  rw [trimmed, List.append_assoc, dropWhile_isBlank hbefore hfirst, List.rdropWhile,
    List.reverse_append, dropWhile_isBlank (fun t ht => hafter t (List.mem_reverse.mp ht)),
    List.reverse_reverse]
  -- from the other end it stops at the last one
  rw [List.head?_reverse]
  exact h.last

/-- A space in front of what opens a section does not belong to it. -/
theorem isBlank_takeWhile_cons {opens : Token → Bool} {t : Token} (ht : opens t = true)
    (rest : List Token) : IsBlank ((.space :: t :: rest).takeWhile (!opens ·)) := by
  intro u hu
  rw [List.takeWhile_cons] at hu
  split at hu
  · rw [List.takeWhile_cons_of_neg (by simp [ht])] at hu
    exact List.mem_singleton.mp hu
  · exact absurd hu List.not_mem_nil

/-- The keyword of a join, the tokens of a table, `ON` and what is behind it are read back. -/
theorem joinedPart_append (keyword : Token) {table on after : List Token}
    (htable : IsTrimmed table) (hapart : Token.on ∉ table) (hon : IsTrimmed on)
    (hafter : IsBlank after) :
    joinedPart (keyword, [.space] ++ table ++ [.space, .on, .space] ++ on ++ after) =
      ⟨keyword, table, on⟩ := by
  have hspace : IsBlank [.space] := fun t ht => List.mem_singleton.mp ht
  have hbefore : ∀ t ∈ [.space] ++ table ++ [.space], decide (t ≠ .on) = true := by
    intro t ht
    simp only [List.mem_append, List.mem_singleton] at ht
    rcases ht with (rfl | ht) | rfl
    · rfl
    · exact decide_eq_true fun heq => hapart (heq ▸ ht)
    · rfl
  -- the tokens up to `ON`, `ON`, and the tokens behind it
  have hcut : [.space] ++ table ++ [.space, .on, .space] ++ on ++ after =
      ([.space] ++ table ++ [.space]) ++ .on :: ([.space] ++ on ++ after) := by simp
  rw [joinedPart, hcut, List.takeWhile_append_of_pos hbefore,
    List.dropWhile_append_of_pos hbefore, List.takeWhile_cons_of_neg (by simp),
    List.dropWhile_cons_of_neg (by simp), List.append_nil, List.drop_one, List.tail_cons,
    trimmed_append hspace htable hspace, trimmed_append hspace hon hafter]

end Token

open Token (IsBlank IsBody IsOperand IsPart IsTrimmed opensClause opensJoin opensPart words)

/-- A joined table as its tokens are read. -/
def JoinedTable.part (t : JoinedTable) : Token.JoinedPart :=
  ⟨.join t.kind, Statement.tableTokens t.table, Statement.conditionsTokens t.conditions⟩

/-- The tables of a statement as their tokens are read. -/
def FromClause.parts (f : FromClause) : Token.TablesPart :=
  ⟨Statement.tableTokens f.first, f.joined.map JoinedTable.part⟩

namespace Statement

/-! ### Tables and conditions as parts -/

theorem isTrimmed_tableTokens (table : TableRef) : IsTrimmed (tableTokens table) := by
  rw [tableTokens]
  cases table.aliasName <;> exact ⟨⟨_, rfl, by simp⟩, ⟨_, rfl, by simp⟩⟩

theorem on_notMem_tableTokens (table : TableRef) : Token.on ∉ tableTokens table := by
  rw [tableTokens]
  cases table.aliasName <;> simp

theorem isTrimmed_conditionsTokens {cs : List Condition}
    (h : ∀ c ∈ cs, IsOperand c.left ∧ IsOperand c.right) : IsTrimmed (conditionsTokens cs) := by
  rw [conditionsTokens]
  split
  · exact ⟨⟨_, rfl, by simp⟩, ⟨_, rfl, by simp⟩⟩
  · next hne =>
    refine Token.isTrimmed_separated (by simpa using hne) ?_
    rw [List.forall_mem_map]
    exact fun c hc => (h c hc).1.isTrimmed.append (h c hc).2.isTrimmed _

/-- A table without conditions is joined on `0 = 0`, and no other is: a condition starts with an
operand. -/
theorem conditionsTokens_eq_zeroIsZero {cs : List Condition}
    (h : ∀ c ∈ cs, IsOperand c.left ∧ IsOperand c.right) :
    conditionsTokens cs = Token.zeroIsZero ↔ cs = [] := by
  cases cs with
  | nil => exact ⟨fun _ => rfl, fun _ => rfl⟩
  | cons c cs =>
    refine ⟨fun heq => ?_, fun hnil => absurd hnil (List.cons_ne_nil c cs)⟩
    obtain ⟨hleft, -⟩ := h c List.mem_cons_self
    obtain ⟨t, rest, hcons⟩ := List.exists_cons_of_ne_nil hleft.nonempty
    -- a condition begins with an operand, and a word of an operand is no literal zero
    have hhead : (conditionsTokens (c :: cs)).head? = some t := by
      cases cs <;> simp [conditionsTokens, Token.separated, conditionTokens, hcons]
    rw [heq] at hhead
    have hoperand := hleft.inOperand t (by simp [hcons])
    rw [← Option.some.inj hhead] at hoperand
    exact absurd hoperand (by decide)

/-- The words of a condition. -/
def conditionWords (c : Condition) : List Token := c.left ++ [.comparator c.comparator] ++ c.right

theorem words_conditionTokens {c : Condition} (hleft : IsOperand c.left)
    (hright : IsOperand c.right) : words (conditionTokens c) = conditionWords c := by
  rw [conditionTokens, Token.words_append, Token.words_append, hleft.words_eq, hright.words_eq]
  rfl

/-- **The conditions of a joined table are read back**, one by one. -/
theorem conditions_part {t : JoinedTable}
    (h : ∀ c ∈ t.conditions, IsOperand c.left ∧ IsOperand c.right) :
    t.part.conditions = t.conditions.map conditionWords := by
  rw [Token.JoinedPart.conditions, JoinedTable.part]
  dsimp only
  split
  · next heq => rw [(conditionsTokens_eq_zeroIsZero h).mp heq, List.map_nil]
  · next hne =>
    have hcs : t.conditions ≠ [] := fun hnil =>
      hne ((conditionsTokens_eq_zeroIsZero h).mpr hnil)
    have hand : words and = [.and] := by decide
    have hwords : (t.conditions.map conditionTokens).map words =
        t.conditions.map conditionWords := by
      rw [List.map_map]
      exact List.map_congr_left fun c hc => words_conditionTokens (h c hc).1 (h c hc).2
    -- no condition holds the keyword between conditions
    have hapart : ∀ p ∈ t.conditions.map conditionWords, Token.and ∉ p := by
      rw [List.forall_mem_map]
      intro c hc hmem
      have hpart : IsPart (conditionWords c) :=
        ((h c hc).1.isPart.append (by simp [IsPart, opensClause])).append (h c hc).2.isPart
      exact (hpart _ hmem).2.2 rfl
    rw [conditionsTokens, List.isEmpty_eq_false_iff.mpr hcs, if_neg Bool.false_ne_true,
      Token.words_separated, hand, hwords]
    exact List.splitOn_intercalate Token.and hapart (by simpa using hcs)

/-! ### Tables read back -/

/-- What follows a table begins with a space and the keyword of a join, or it is blank. -/
theorem isBlank_joinedTokens (ts : List JoinedTable) {after : List Token} (hafter : IsBlank after) :
    IsBlank ((ts.flatMap joinedTokens ++ after).takeWhile (!opensJoin ·)) := by
  cases ts with
  | nil => exact fun t ht => hafter t (List.takeWhile_subset _ ht)
  | cons t ts => exact Token.isBlank_takeWhile_cons rfl _

/-- The joined tables are read back, one behind the other. -/
theorem sections_joinedTokens {ts : List JoinedTable}
    (h : ∀ t ∈ ts, ∀ c ∈ t.conditions, IsOperand c.left ∧ IsOperand c.right) {after : List Token}
    (hafter : IsBlank after) :
    (Token.sections opensJoin (ts.flatMap joinedTokens ++ after)).map Token.joinedPart =
      ts.map JoinedTable.part := by
  induction ts with
  | nil =>
    have hbody : IsBody opensJoin after := fun t ht => hafter t ht ▸ rfl
    have hnone := hbody.sections_append []
    rw [List.append_nil] at hnone
    rw [List.flatMap_nil, List.nil_append, hnone]
    rfl
  | cons t ts ih =>
    obtain ⟨ht, hts⟩ := List.forall_mem_cons.mp h
    -- the space in front of the keyword, the keyword, and its section up to the next one
    let body := [.space] ++ tableTokens t.table ++ [.space, .on, .space] ++
      conditionsTokens t.conditions
    have hcut : (t :: ts).flatMap joinedTokens ++ after =
        [.space] ++ .join t.kind :: (body ++ (ts.flatMap joinedTokens ++ after)) := by
      simp [body, joinedTokens]
    have hspace : IsBody opensJoin [.space] := by simp [IsBody, opensJoin]
    have hon : IsBody opensJoin [.space, .on, .space] := by simp [IsBody, opensJoin]
    have hbody : IsBody opensJoin body :=
      ((hspace.append (isBody_tableTokens t.table).isBody_opensJoin).append hon).append
        (isBody_conditionsTokens ht).isBody_opensJoin
    have hopens : opensJoin (.join t.kind) = true := rfl
    rw [hcut, hspace.sections_append, Token.sections, if_pos hopens, List.map_cons,
      hbody.takeWhile_append, hbody.sections_append, ih hts, List.map_cons]
    congr 1
    exact Token.joinedPart_append _ (isTrimmed_tableTokens t.table)
      (on_notMem_tableTokens t.table) (isTrimmed_conditionsTokens ht)
      (isBlank_joinedTokens ts hafter)

/-- **The tables behind `FROM` are read back.** -/
theorem tablesPart_tokens {f : FromClause}
    (h : ∀ t ∈ f.joined, ∀ c ∈ t.conditions, IsOperand c.left ∧ IsOperand c.right)
    {after : List Token} (hafter : IsBlank after) :
    Token.tablesPart ([.space] ++ tablesTokens f ++ after) = f.parts := by
  have hspace : IsBody opensJoin [.space] := by simp [IsBody, opensJoin]
  have hfirst : IsBody opensJoin ([.space] ++ tableTokens f.first) :=
    hspace.append (isBody_tableTokens f.first).isBody_opensJoin
  -- the first table ends where the first join keyword stands
  have hcut : [.space] ++ tablesTokens f ++ after =
      ([.space] ++ tableTokens f.first) ++ (f.joined.flatMap joinedTokens ++ after) := by
    simp [tablesTokens]
  rw [hcut, Token.tablesPart, hfirst.takeWhile_append, hfirst.sections_append,
    sections_joinedTokens h hafter,
    Token.trimmed_append (fun t ht => List.mem_singleton.mp ht) (isTrimmed_tableTokens f.first)
      (isBlank_joinedTokens f.joined hafter), FromClause.parts]

/-- What follows the tables begins with a space and the keyword of a clause, or there is nothing. -/
theorem isBlank_clause_append {keyword : Token} (hkeyword : keyword.opensClause = true)
    (separator : List Token) (parts : List (List Token)) {rest : List Token}
    (hrest : IsBlank (rest.takeWhile (!opensClause ·))) :
    IsBlank ((clause keyword separator parts ++ rest).takeWhile (!opensClause ·)) := by
  rw [clause]
  split
  · exact hrest
  · exact Token.isBlank_takeWhile_cons hkeyword _

theorem from_notMem_of_isBody {tokens : List Token} (h : IsBody opensClause tokens) :
    Token.from' ∉ tokens := fun hmem => absurd (h _ hmem) (by decide)

/-- The keyword of the tables is in no other clause. -/
theorem from_notMem_clause {keyword : Token} (hne : keyword ≠ .from') {separator : List Token}
    (hseparator : IsBody opensClause separator) {parts : List (List Token)}
    (h : ∀ p ∈ parts, IsPart p) : Token.from' ∉ clause keyword separator parts := by
  rw [clause]
  split
  · exact List.not_mem_nil
  · have hparts := from_notMem_of_isBody
      (Token.isBody_separated hseparator fun p hp => (h p hp).isBody)
    simp [hne.symm, hparts]

/-- **The tables of a statement are read back from its tokens.** -/
theorem Readable.readTables?_tokens {s : Statement} (h : s.Readable) :
    Token.readTables? s.tokens = s.tables.map FromClause.parts := by
  have hcomma : IsBody opensClause comma := by simp [IsBody, comma, opensClause]
  have hand : IsBody opensClause and := by simp [IsBody, and, opensClause]
  -- the statement up to its tables, and behind them
  let before := [.select, .space] ++ Token.separated comma (s.members.map memberTokens)
  let after := clause .where' and s.filters ++ (clause .groupBy comma s.groupKeys ++
    (clause .having and s.groupFilters ++
      (clause .orderBy comma (s.sortKeys.map sortKeyTokens) ++ [])))
  have htokens : s.tokens = before ++ (fromTokens s.tables ++ after) := by
    simp only [tokens, before, after, List.append_assoc, List.append_nil]
  have hbefore : ∀ t ∈ before, decide (t ≠ .from') = true := by
    have hmembers := from_notMem_of_isBody
      (Token.isBody_separated hcomma fun p hp => (h.isPart_members p hp).isBody)
    have hnot : Token.from' ∉ before := by simp [before, hmembers]
    exact fun t ht => decide_eq_true fun heq => hnot (heq ▸ ht)
  have hblank : IsBlank (after.takeWhile (!opensClause ·)) :=
    isBlank_clause_append rfl _ _ <| isBlank_clause_append rfl _ _ <|
      isBlank_clause_append rfl _ _ <| isBlank_clause_append rfl _ _ fun t ht =>
        absurd ht List.not_mem_nil
  rw [htokens, Token.readTables?, List.dropWhile_append_of_pos hbefore]
  cases htables : s.tables with
  | none =>
    have hnot : Token.from' ∉ after := by
      simp only [after, List.mem_append, not_or, List.not_mem_nil, not_false_eq_true, and_true]
      exact ⟨from_notMem_clause (by simp) hand h.filters,
        from_notMem_clause (by simp) hcomma h.groupKeys,
        from_notMem_clause (by simp) hand h.groupFilters,
        from_notMem_clause (by simp) hcomma h.isPart_sortKeys⟩
    have hnone : after.dropWhile (· ≠ .from') = [] :=
      List.dropWhile_eq_nil_iff.mpr fun t ht => decide_eq_true fun heq => hnot (heq ▸ ht)
    rw [fromTokens, List.nil_append, hnone]
    rfl
  | some f =>
    have hconditions : ∀ t ∈ f.joined, ∀ c ∈ t.conditions,
        IsOperand c.left ∧ IsOperand c.right := by
      have hjoined := h.conditions
      rwa [joined, htables] at hjoined
    have hspace : IsBody opensClause [.space] := by simp [IsBody, opensClause]
    have hbody : IsBody opensClause ([.space] ++ tablesTokens f) :=
      hspace.append (isBody_tablesTokens hconditions)
    have hcut : fromTokens (some f) ++ after =
        .space :: .from' :: ([.space] ++ tablesTokens f ++ after) := by
      simp [fromTokens, tablesTokens]
    rw [hcut, List.dropWhile_cons_of_pos (by simp), List.dropWhile_cons_of_neg (by simp)]
    dsimp only
    rw [hbody.takeWhile_append, tablesPart_tokens hconditions hblank, Option.map_some]

/-- The tokens of the joined tables are read back, each with its keyword and its conditions. -/
theorem Readable.joinedParts_tokens {s : Statement} (h : s.Readable) :
    Token.joinedParts s.tokens = s.joined.map JoinedTable.part := by
  rw [Token.joinedParts, h.readTables?_tokens, joined]
  cases s.tables <;> rfl

/-- The tokens of the tables are read back, in the order in which they are named. -/
theorem Readable.tableParts_tokens {s : Statement} (h : s.Readable) :
    Token.tableParts s.tokens = s.namedTables.map tableTokens := by
  rw [Token.tableParts, h.readTables?_tokens, namedTables]
  cases s.tables with
  | none => rfl
  | some f =>
    have htables : (f.joined.map JoinedTable.part).map (·.table) =
        (f.joined.map (·.table)).map tableTokens := by
      rw [List.map_map, List.map_map]
      rfl
    simp only [Option.map_some, Option.getD_some, FromClause.parts, htables, List.map_cons]

end Statement

end VisualQuery
