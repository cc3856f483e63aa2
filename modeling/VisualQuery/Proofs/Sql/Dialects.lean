import Mathlib.Data.List.Forall2
import VisualQuery.Proofs.Housing
import VisualQuery.Sql.Statement

/-!
# What depends on the dialect

The same query is written for two databases. The two statements are compared token by token: they
have the same tokens, except where an item is a constant by the name of a built-in one, which each
dialect spells in its own way (`Query.respelled_tokens`).

The first half of the module is about statements and not about dialects. Two statements match under
a relation of tokens if they have the same parts and their expressions are related token by token
(`Statement.Matches`). What is put between the parts is the same for both, so their tokens are
related again, if every token is related to itself.

The second half reads a query in two styles. Everything that is looked up is the same; a style only
matters where the text of an item is asked for (`Dialect.itemText`), and every item of an expression
is one that the query holds. That is all that is needed of the query: it may be any, with or without
the invariant.
-/

namespace VisualQuery

/-! ### Built-in constants -/

namespace Item

/-- The names of the built-in constants. -/
def builtinNames : List String := ["current_time", "current_date", "user"]

/-- An item that is a constant by the name of a built-in one, which may stand between blanks and in
any letter case. -/
def IsBuiltin (x : Item) : Prop :=
  x.kind = .constant ∧ ∃ name ∈ builtinNames, Text.equalAsciiCaseless name (Text.trim x.name) = true

instance : DecidablePred IsBuiltin := fun _ => inferInstanceAs (Decidable (_ ∧ _))

end Item

namespace Dialect

/-- A dialect spells built-in constants only. -/
theorem mem_builtinNames (d : Dialect) : ∀ entry ∈ d.spellings, entry.1 ∈ Item.builtinNames := by
  cases d <;> decide

theorem spelling?_eq_none (d : Dialect) {text : String}
    (h : ∀ name ∈ Item.builtinNames, Text.equalAsciiCaseless name (Text.trim text) = false) :
    d.spelling? text = none := by
  rw [spelling?, Option.map_eq_none_iff, List.find?_eq_none]
  intro entry hentry
  rw [h entry.1 (d.mem_builtinNames entry hentry)]
  exact Bool.false_ne_true

/-- Every other item has the same text in all dialects. -/
theorem itemText_eq {x : Item} (h : ¬ x.IsBuiltin) (d d' : Dialect) (quote : String) :
    d.itemText quote x = d'.itemText quote x := by
  unfold itemText
  cases hkind : x.kind with
  | column => rfl
  | countStar => rfl
  | constant =>
    -- only constants are respelled, and only those with a builtin name
    have hnames : ∀ name ∈ Item.builtinNames,
        Text.equalAsciiCaseless name (Text.trim x.name) = false := fun name hname =>
      Bool.eq_false_iff.mpr fun heq => h ⟨hkind, name, hname, heq⟩
    dsimp only
    rw [d.spelling?_eq_none hnames, d'.spelling?_eq_none hnames]

end Dialect

/-! ### Statements that match token by token -/

section Matching

variable {R : Token → Token → Prop}

/-- Members with the same alias, whose expressions are related. -/
structure Member.Matches (R : Token → Token → Prop) (m m' : Member) : Prop where
  /-- The expressions are related. -/
  expr : List.Forall₂ R m.expr m'.expr
  /-- The aliases are the same. -/
  aliasName : m.aliasName = m'.aliasName

/-- Conditions with the same comparator between related expressions. -/
structure Condition.Matches (R : Token → Token → Prop) (c c' : Condition) : Prop where
  /-- The expressions on the left are related. -/
  left : List.Forall₂ R c.left c'.left
  /-- The comparators are the same. -/
  comparator : c.comparator = c'.comparator
  /-- The expressions on the right are related. -/
  right : List.Forall₂ R c.right c'.right

/-- The same table, joined on matching conditions. -/
structure JoinedTable.Matches (R : Token → Token → Prop) (t t' : JoinedTable) : Prop where
  /-- The kinds of the joins are the same. -/
  kind : t.kind = t'.kind
  /-- The tables are the same. -/
  table : t.table = t'.table
  /-- The conditions match one by one. -/
  conditions : List.Forall₂ (Condition.Matches R) t.conditions t'.conditions

/-- The same tables, joined on matching conditions. -/
structure FromClause.Matches (R : Token → Token → Prop) (f f' : FromClause) : Prop where
  /-- The first tables are the same. -/
  first : f.first = f'.first
  /-- The tables joined to it match one by one. -/
  joined : List.Forall₂ (JoinedTable.Matches R) f.joined f'.joined

/-- Sort keys of the same direction, whose expressions are related. -/
structure SortKey.Matches (R : Token → Token → Prop) (k k' : SortKey) : Prop where
  /-- The expressions are related. -/
  expr : List.Forall₂ R k.expr k'.expr
  /-- The directions are the same. -/
  order : k.order = k'.order

/-- **Statements that match**: each part of the one corresponds to a part of the other. -/
structure Statement.Matches (R : Token → Token → Prop) (s s' : Statement) : Prop where
  /-- The members of the selection match one by one. -/
  members : List.Forall₂ (Member.Matches R) s.members s'.members
  /-- The tables match, or there are none in both. -/
  tables : Option.Rel (FromClause.Matches R) s.tables s'.tables
  /-- The filters are related one by one. -/
  filters : List.Forall₂ (List.Forall₂ R) s.filters s'.filters
  /-- So are the grouping keys. -/
  groupKeys : List.Forall₂ (List.Forall₂ R) s.groupKeys s'.groupKeys
  /-- So are the filters on groups. -/
  groupFilters : List.Forall₂ (List.Forall₂ R) s.groupFilters s'.groupFilters
  /-- The sort keys match one by one. -/
  sortKeys : List.Forall₂ (SortKey.Matches R) s.sortKeys s'.sortKeys

open Statement

variable [Std.Refl R]

/-- Between related parts stands the same separator. -/
theorem Token.forall₂_separated (separator : List Token) {parts parts' : List (List Token)}
    (h : List.Forall₂ (List.Forall₂ R) parts parts') :
    List.Forall₂ R (separated separator parts) (separated separator parts') := by
  unfold separated
  induction h with
  | nil => exact .nil
  | cons hpart hrest ih =>
    -- a separator follows only if there is another part
    cases hrest with
    | nil =>
      rw [List.intercalate_singleton, List.intercalate_singleton]
      exact hpart
    | cons hnext hrest =>
      rw [List.intercalate_cons_cons, List.intercalate_cons_cons]
      exact List.rel_append (List.rel_append hpart (List.forall₂_refl separator)) ih

theorem Member.Matches.tokens {m m' : Member} (h : m.Matches R m') :
    List.Forall₂ R (memberTokens m) (memberTokens m') := by
  unfold memberTokens
  rw [← h.aliasName]
  cases m.aliasName with
  | none => exact h.expr
  | some name => exact List.rel_append h.expr (List.forall₂_refl _)

theorem SortKey.Matches.tokens {k k' : SortKey} (h : k.Matches R k') :
    List.Forall₂ R (sortKeyTokens k) (sortKeyTokens k') := by
  unfold sortKeyTokens
  rw [← h.order]
  cases k.order with
  | ascending => exact List.rel_append h.expr (List.forall₂_refl _)
  | descending => exact List.rel_append h.expr (List.forall₂_refl _)
  | unordered => exact h.expr

theorem Condition.Matches.tokens {c c' : Condition} (h : c.Matches R c') :
    List.Forall₂ R (conditionTokens c) (conditionTokens c') := by
  unfold conditionTokens
  rw [← h.comparator]
  exact List.rel_append (List.rel_append h.left (List.forall₂_refl _)) h.right

/-- Without conditions both are joined on the one that always holds. -/
theorem Condition.forall₂_conditionsTokens {cs cs' : List Condition}
    (h : List.Forall₂ (Condition.Matches R) cs cs') :
    List.Forall₂ R (conditionsTokens cs) (conditionsTokens cs') := by
  cases h with
  | nil => exact List.forall₂_refl tautology
  | cons hc hcs =>
    exact Token.forall₂_separated _ (List.rel_map (fun _ _ h => h.tokens) (.cons hc hcs))

theorem JoinedTable.Matches.tokens {t t' : JoinedTable} (h : t.Matches R t') :
    List.Forall₂ R (joinedTokens t) (joinedTokens t') := by
  unfold joinedTokens
  rw [← h.kind, ← h.table]
  exact List.rel_append (List.forall₂_refl _) (Condition.forall₂_conditionsTokens h.conditions)

theorem FromClause.forall₂_fromTokens {f f' : Option FromClause}
    (h : Option.Rel (FromClause.Matches R) f f') :
    List.Forall₂ R (fromTokens f) (fromTokens f') := by
  cases h with
  | none => exact .nil
  | some h =>
    unfold fromTokens
    dsimp only
    rw [← h.first]
    exact List.rel_append (List.forall₂_refl _)
      (List.rel_flatMap h.joined fun _ _ ht => ht.tokens)

/-- A clause is left out in both statements or in none. -/
theorem Statement.forall₂_clause (keyword : Token) (separator : List Token)
    {parts parts' : List (List Token)} (h : List.Forall₂ (List.Forall₂ R) parts parts') :
    List.Forall₂ R (clause keyword separator parts) (clause keyword separator parts') := by
  cases h with
  | nil => exact .nil
  | cons hpart hrest =>
    exact List.rel_append (List.forall₂_refl _)
      (Token.forall₂_separated separator (.cons hpart hrest))

/-- **The tokens of matching statements are related one by one.** -/
theorem Statement.Matches.tokens {s s' : Statement} (h : s.Matches R s') :
    List.Forall₂ R s.tokens s'.tokens := by
  have hmembers : List.Forall₂ R (Token.separated comma (s.members.map memberTokens))
      (Token.separated comma (s'.members.map memberTokens)) :=
    Token.forall₂_separated _ (List.rel_map (fun _ _ hm => hm.tokens) h.members)
  have hsort : List.Forall₂ (List.Forall₂ R) (s.sortKeys.map sortKeyTokens)
      (s'.sortKeys.map sortKeyTokens) := List.rel_map (fun _ _ hk => hk.tokens) h.sortKeys
  -- clause by clause, as the tokens are put together
  have hselect := List.rel_append (List.forall₂_refl [Token.select, Token.space]) hmembers
  have hfrom := List.rel_append hselect (FromClause.forall₂_fromTokens h.tables)
  have hwhere := List.rel_append hfrom (forall₂_clause .where' and h.filters)
  have hgroup := List.rel_append hwhere (forall₂_clause .groupBy comma h.groupKeys)
  have hhaving := List.rel_append hgroup (forall₂_clause .having and h.groupFilters)
  exact List.rel_append hhaving (forall₂_clause .orderBy comma hsort)

end Matching

/-! ### Related readings of one list -/

section Lists

variable {α β : Type} {P : β → β → Prop} {as : List α}

theorem forall₂_map_same {f g : α → β} (h : ∀ a ∈ as, P (f a) (g a)) :
    List.Forall₂ P (as.map f) (as.map g) :=
  List.forall₂_map_left_iff.mpr (List.forall₂_map_right_iff.mpr (List.forall₂_same.mpr h))

theorem forall₂_filterMap_same {f g : α → Option β} (h : ∀ a ∈ as, Option.Rel P (f a) (g a)) :
    List.Forall₂ P (as.filterMap f) (as.filterMap g) := by
  have hsame : List.Forall₂ (fun a b => a = b ∧ a ∈ as) as as :=
    List.forall₂_same.mpr fun a ha => ⟨rfl, ha⟩
  refine List.rel_filterMap ?_ hsame
  rintro a _ ⟨rfl, ha⟩
  exact h a ha

end Lists

/-! ### One query in two dialects -/

namespace Query

/-- **Tokens of one query in two dialects.** They are the same, or both are the text of an item of
the query that is a built-in constant. -/
inductive Respelled (q : Query) (quote : String) (d d' : Dialect) : Token → Token → Prop
  /-- A token that both dialects write. -/
  | same (t : Token) : Respelled q quote d d' t t
  /-- A built-in constant as each dialect spells it. -/
  | constant {x : Item} (hx : x ∈ q.items) (hbuiltin : x.IsBuiltin) :
    Respelled q quote d d' (.raw (d.itemText quote x)) (.raw (d'.itemText quote x))

variable {q : Query} {quote : String} {d d' : Dialect}

instance : Std.Refl (Respelled q quote d d') := ⟨.same⟩

theorem mem_items_of_mem_filterMap {ids : List ItemId} {x : Item}
    (hx : x ∈ ids.filterMap q.item?) : x ∈ q.items := by
  obtain ⟨id, -, hfound⟩ := List.mem_filterMap.mp hx
  exact (item?_eq_some hfound).1

/-! ### Expressions -/

/-- The one place where the dialect is asked. -/
theorem respelled_plainExpr {x : Item} (hx : x ∈ q.items) :
    List.Forall₂ (Respelled q quote d d') (q.plainExpr ⟨d, quote⟩ x)
      (q.plainExpr ⟨d', quote⟩ x) := by
  have htext : Respelled q quote d d' (.raw (d.itemText quote x)) (.raw (d'.itemText quote x)) := by
    by_cases hbuiltin : x.IsBuiltin
    · exact .constant hx hbuiltin
    · rw [Dialect.itemText_eq hbuiltin d d']
      exact .same _
  exact List.rel_append (List.forall₂_refl _) (.cons htext .nil)

theorem respelled_selectedExpr {x : Item} (hx : x ∈ q.items) :
    List.Forall₂ (Respelled q quote d d') (q.selectedExpr ⟨d, quote⟩ x)
      (q.selectedExpr ⟨d', quote⟩ x) := by
  have hplain : List.Forall₂ (Respelled q quote d d') (q.plainExpr ⟨d, quote⟩ x)
      (q.plainExpr ⟨d', quote⟩ x) := respelled_plainExpr hx
  unfold selectedExpr itemExpr
  split
  · -- the aggregate stands around the item and is the same in both
    have hopened := List.rel_append
      (List.forall₂_refl [.function x.groupFunction.word, .lparen]) hplain
    exact List.rel_append hopened (List.forall₂_refl [Token.rparen])
  · exact hplain

/-- An alias is the user's or made of the name, as it is. -/
theorem matches_member {x : Item} (hx : x ∈ q.items) :
    Member.Matches (Respelled q quote d d') (q.member ⟨d, quote⟩ x) (q.member ⟨d', quote⟩ x) :=
  ⟨respelled_selectedExpr hx, rfl⟩

/-! ### Tables -/

theorem matches_condition? (j : Join) :
    Option.Rel (Condition.Matches (Respelled q quote d d')) (q.condition? ⟨d, quote⟩ j)
      (q.condition? ⟨d', quote⟩ j) := by
  unfold condition?
  cases hleft : q.item? j.left.item with
  | none => exact .none
  | some left =>
    cases hright : q.item? j.right.item with
    | none => exact .none
    | some right =>
      exact .some ⟨respelled_plainExpr (item?_eq_some hleft).1, rfl,
        respelled_plainExpr (item?_eq_some hright).1⟩

theorem matches_joinedTables (earlier : List ContainerId) (previous : ContainerId)
    (rest : List ContainerId) :
    List.Forall₂ (JoinedTable.Matches (Respelled q quote d d'))
      (q.joinedTables ⟨d, quote⟩ earlier previous rest)
      (q.joinedTables ⟨d', quote⟩ earlier previous rest) := by
  induction rest generalizing earlier previous with
  | nil => exact .nil
  | cons c rest ih =>
    rw [joinedTables, joinedTables]
    -- a table and its keyword do not depend on the dialect, only its conditions may
    refine List.rel_append ?_ (ih (earlier ++ [c]) c)
    cases q.container? c with
    | none => exact .nil
    | some k =>
      exact .cons ⟨rfl, rfl, forall₂_filterMap_same fun j _ => matches_condition? j⟩ .nil

theorem matches_fromClause? :
    Option.Rel (FromClause.Matches (Respelled q quote d d')) (q.fromClause? ⟨d, quote⟩)
      (q.fromClause? ⟨d', quote⟩) := by
  unfold fromClause?
  cases q.finishOrder with
  | nil => exact .none
  | cons c rest =>
    dsimp only
    cases q.container? c with
    | none => exact .none
    | some k => exact .some ⟨rfl, matches_joinedTables [c] c rest⟩

/-! ### The statement -/

/-- Every item of the query that has a filter is followed by it, and the filter of the query stands
by itself. -/
theorem respelled_filters :
    List.Forall₂ (List.Forall₂ (Respelled q quote d d')) (q.filters ⟨d, quote⟩)
      (q.filters ⟨d', quote⟩) := by
  unfold filters
  refine List.rel_append (forall₂_filterMap_same fun x hx => ?_)
    (List.forall₂_same.mpr fun e _ => List.forall₂_refl e)
  cases x.filter? with
  | none => exact .none
  | some text =>
    exact .some (List.rel_append (respelled_plainExpr (mem_items_of_mem_itemsInOrder hx))
      (List.forall₂_refl _))

theorem respelled_groupKeys :
    List.Forall₂ (List.Forall₂ (Respelled q quote d d')) (q.groupKeys ⟨d, quote⟩)
      (q.groupKeys ⟨d', quote⟩) :=
  forall₂_map_same fun _ hx =>
    respelled_plainExpr (mem_items_of_mem_filterMap (List.mem_filter.mp hx).1)

theorem respelled_groupFilters :
    List.Forall₂ (List.Forall₂ (Respelled q quote d d')) (q.groupFilters ⟨d, quote⟩)
      (q.groupFilters ⟨d', quote⟩) := by
  unfold groupFilters
  refine forall₂_filterMap_same fun x hx => ?_
  have hexpr : List.Forall₂ (Respelled q quote d d') (q.selectedExpr ⟨d, quote⟩ x)
      (q.selectedExpr ⟨d', quote⟩ x) := respelled_selectedExpr (mem_items_of_mem_filterMap hx)
  cases x.having? with
  | none => exact .none
  | some text => exact .some (List.rel_append hexpr (List.forall₂_refl _))

theorem matches_sortKeys :
    List.Forall₂ (SortKey.Matches (Respelled q quote d d')) (q.sortKeys ⟨d, quote⟩)
      (q.sortKeys ⟨d', quote⟩) :=
  forall₂_map_same fun _ hx => ⟨respelled_selectedExpr (mem_items_of_mem_filterMap hx), rfl⟩

theorem matches_statement (q : Query) (quote : String) (d d' : Dialect) :
    Statement.Matches (Respelled q quote d d') (q.statement ⟨d, quote⟩)
      (q.statement ⟨d', quote⟩) where
  members := forall₂_map_same fun _ hx => matches_member (mem_items_of_mem_filterMap hx)
  tables := matches_fromClause?
  filters := respelled_filters
  groupKeys := by
    show List.Forall₂ _ (if q.grouping then _ else _) (if q.grouping then _ else _)
    split
    · exact respelled_groupKeys
    · exact .nil
  groupFilters := by
    show List.Forall₂ _ (if q.grouping then _ else _) (if q.grouping then _ else _)
    split
    · exact respelled_groupFilters
    · exact .nil
  sortKeys := matches_sortKeys

/-- A query without built-in constants has one token sequence in all dialects. -/
theorem eq_of_respelled (h : ∀ x ∈ q.items, ¬ x.IsBuiltin) {t t' : Token}
    (ht : Respelled q quote d d' t t') : t = t' := by
  cases ht with
  | same => rfl
  | constant hx hbuiltin => exact absurd hbuiltin (h _ hx)

/-- **The dialect only spells built-in constants.** In two dialects a query has equally many tokens,
and two tokens at the same place are the same or both the text of a built-in constant that the query
holds. If it holds none, the statement is the same text in all dialects. -/
theorem respelled_tokens (q : Query) (quote : String) (d d' : Dialect) :
    (q.structuralTokens ⟨d, quote⟩).length = (q.structuralTokens ⟨d', quote⟩).length ∧
      List.Forall₂ (Respelled q quote d d') (q.structuralTokens ⟨d, quote⟩)
        (q.structuralTokens ⟨d', quote⟩) ∧
      ((∀ x ∈ q.items, ¬ x.IsBuiltin) →
        q.generateStructural ⟨d, quote⟩ = q.generateStructural ⟨d', quote⟩) := by
  have htokens : List.Forall₂ (Respelled q quote d d') (q.structuralTokens ⟨d, quote⟩)
      (q.structuralTokens ⟨d', quote⟩) := by
    unfold structuralTokens
    split
    · exact .nil
    · exact (matches_statement q quote d d').tokens
  refine ⟨htokens.length_eq, htokens, fun hplain => ?_⟩
  -- without builtins respelled tokens are equal, so the texts are
  have hsame : List.Forall₂ Eq (q.structuralTokens ⟨d, quote⟩) (q.structuralTokens ⟨d', quote⟩) :=
    htokens.imp fun _ _ ht => eq_of_respelled hplain ht
  rw [List.forall₂_eq_eq_eq] at hsame
  exact congrArg (Token.render quote) hsame

end Query

end VisualQuery
