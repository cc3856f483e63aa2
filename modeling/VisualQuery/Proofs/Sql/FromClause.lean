import VisualQuery.Proofs.History
import VisualQuery.Proofs.JoinGraph
import VisualQuery.Sql.Statement

/-!
# Tables and conditions of a statement

A statement names the tables in the order in which the search of the join graph finishes them, and
joins each but the first on the conditions of the joins that lead back to tables before it. The
generator finds these joins by the index of the registry and drops a condition if an item at an end
of the join is not known.

On a query with the invariant nothing is dropped. The joins that lead back are a filter of the
registered ones (`joinsBack_eq`), and each of them has a condition (`Coherent.condition?_of_mem`). A
join leads back from exactly one of its two tables, the one that is named later
(`Join.leadsBack_take`). So the conditions of the statement are those of the registered joins, each
once, at the later table; and a table without any is one that starts apart from those before it,
which is what `containsCrossJoins` looks for on its own (`startsApart_iff`).
-/

namespace VisualQuery

/-! ### Joins that lead back -/

namespace Join

variable {j : Join} {order earlier : List ContainerId} {c : ContainerId}

/-- Whether a join leads from a table back to one of those that are named before it. -/
def leadsBack (earlier : List ContainerId) (c : ContainerId) (j : Join) : Bool :=
  ((j.otherContainer? c).map fun d => decide (d ∈ earlier)).getD false

/-- The one of the two tables of a join that is named later. -/
def laterIn (order : List ContainerId) (j : Join) : ContainerId :=
  if order.idxOf j.left.container < order.idxOf j.right.container then j.right.container
  else j.left.container

theorem otherContainer?_left (j : Join) :
    j.otherContainer? j.left.container = some j.right.container := by
  rw [otherContainer?, sideOf?, if_pos rfl]
  rfl

theorem otherContainer?_right (hj : j.left.container ≠ j.right.container) :
    j.otherContainer? j.right.container = some j.left.container := by
  rw [otherContainer?, sideOf?, if_neg hj, if_pos rfl]
  rfl

theorem otherContainer?_of_ne (hleft : j.left.container ≠ c) (hright : j.right.container ≠ c) :
    j.otherContainer? c = none := by
  rw [otherContainer?, sideOf?, if_neg hleft, if_neg hright]
  rfl

/-- A join leads back to a table if it connects the two. -/
theorem leadsBack_iff (hj : j.left.container ≠ j.right.container) :
    j.leadsBack earlier c = true ↔ ∃ d ∈ earlier, j.connects c d = true := by
  simp only [connects_iff]
  rw [leadsBack]
  -- the table may stand on either side of the join, and it leads back over the other one
  by_cases hleft : j.left.container = c
  · subst hleft
    rw [otherContainer?_left, Option.map_some, Option.getD_some, decide_eq_true_iff]
    constructor
    · exact fun hd => ⟨_, hd, Or.inl ⟨rfl, rfl⟩⟩
    · rintro ⟨d, hd, ⟨-, rfl⟩ | ⟨-, hright⟩⟩
      · exact hd
      · exact absurd hright.symm hj
  · by_cases hright : j.right.container = c
    · subst hright
      rw [otherContainer?_right hj, Option.map_some, Option.getD_some, decide_eq_true_iff]
      constructor
      · exact fun hd => ⟨_, hd, Or.inr ⟨rfl, rfl⟩⟩
      · rintro ⟨d, hd, ⟨heq, -⟩ | ⟨rfl, -⟩⟩
        · exact absurd heq hj
        · exact hd
    · rw [otherContainer?_of_ne hleft hright]
      refine ⟨fun hfalse => absurd hfalse Bool.false_ne_true, ?_⟩
      rintro ⟨d, -, ⟨heq, -⟩ | ⟨-, heq⟩⟩
      · exact absurd heq hleft
      · exact absurd heq hright

theorem touches_of_leadsBack (h : j.leadsBack earlier c = true) : j.touches c = true := by
  rw [touches]
  rw [leadsBack, otherContainer?] at h
  cases hs : j.sideOf? c with
  | none =>
    rw [hs] at h
    exact absurd h Bool.false_ne_true
  | some side => rfl

/-- **A join leads back from its later table.** Of the tables in order, this is the only one from
which it does. -/
theorem leadsBack_take (hnd : order.Nodup) (hj : j.left.container ≠ j.right.container)
    (hends : ∀ side, (j.atSide side).container ∈ order) {i : Nat} (hc : order[i]? = some c) :
    j.leadsBack (order.take i) c = decide (j.laterIn order = c) := by
  have hleft : j.left.container ∈ order := hends .left
  have hright : j.right.container ∈ order := hends .right
  have hidx : order.idxOf c = i := idxOf_of_getElem? hnd hc
  have hne : order.idxOf j.left.container ≠ order.idxOf j.right.container := fun heq =>
    hj ((List.idxOf_inj hleft).mp heq)
  rw [Bool.eq_iff_iff, leadsBack_iff hj, decide_eq_true_iff]
  simp only [connects_iff]
  constructor
  · -- the other end is before this one, so this one is the later of the two
    rintro ⟨d, hd, ⟨rfl, rfl⟩ | ⟨rfl, rfl⟩⟩
    · have hlt := (List.mem_take_iff_idxOf_lt hright).mp hd
      rw [laterIn, if_neg (by omega)]
    · have hlt := (List.mem_take_iff_idxOf_lt hleft).mp hd
      rw [laterIn, if_pos (by omega)]
  · -- the two ends are at different positions, so the other one comes before
    intro hlater
    rw [laterIn] at hlater
    split at hlater
    · next hlt =>
      subst hlater
      exact ⟨_, (List.mem_take_iff_idxOf_lt hleft).mpr (by omega), Or.inr ⟨rfl, rfl⟩⟩
    · next hlt =>
      subst hlater
      exact ⟨_, (List.mem_take_iff_idxOf_lt hright).mpr (by omega), Or.inl ⟨rfl, rfl⟩⟩

/-- The ends of a join are at tables named up to its later one. -/
theorem mem_take_of_laterIn (hnd : order.Nodup) (hends : ∀ side, (j.atSide side).container ∈ order)
    {i : Nat} (hc : order[i]? = some c) (hlater : j.laterIn order = c) (side : Side) :
    (j.atSide side).container ∈ order.take (i + 1) := by
  have hidx : order.idxOf c = i := idxOf_of_getElem? hnd hc
  have hle : order.idxOf (j.atSide side).container ≤ order.idxOf (j.laterIn order) := by
    rw [laterIn]
    cases side <;> rw [atSide] <;> split <;> omega
  rw [hlater, hidx] at hle
  exact (List.mem_take_iff_idxOf_lt (hends side)).mpr (Nat.lt_succ_of_le hle)

end Join

/-! ### The parts of the clause -/

namespace Statement

/-- The tables that are joined to the first one. -/
def joined (s : Statement) : List JoinedTable := (s.tables.map (·.joined)).getD []

/-- The tables as they are named. -/
def namedTables (s : Statement) : List TableRef :=
  (s.tables.map fun f => f.first :: f.joined.map (·.table)).getD []

end Statement

namespace Query

variable {q : Query} {style : Style}

/-- A query with something selected is written as its statement. -/
theorem structuralTokens_of_selection (hsel : q.selection ≠ []) (style : Style) :
    q.structuralTokens style = (q.statement style).tokens := by
  rw [structuralTokens, List.isEmpty_eq_false_iff.mpr hsel]
  rfl

/-- The tables in the order in which the statement names them. -/
def tablesInOrder (q : Query) : List Container := q.finishOrder.filterMap q.container?

/-- The joins whose condition stands at a table: those of which it is the later one. -/
def joinsPlacedAt (q : Query) (c : ContainerId) : List Join :=
  q.joins.joins.filter (·.laterIn q.finishOrder = c)

theorem mem_joins_of_placed {c : ContainerId} {j : Join} (hj : j ∈ q.joinsPlacedAt c) :
    j ∈ q.joins.joins :=
  List.mem_of_mem_filter hj

/-- The generator finds exactly the joins that lead back. -/
theorem joinsBack_eq (h : q.joins.Coherent) (earlier : List ContainerId) (c : ContainerId) :
    q.joinsBack earlier c = q.joins.joins.filter (·.leadsBack earlier c) := by
  rw [joinsBack, h.joinsAt_eq, List.filter_filter]
  refine List.filter_congr fun j _ => ?_
  change (j.leadsBack earlier c && j.touches c) = j.leadsBack earlier c
  cases hback : j.leadsBack earlier c with
  | false => rfl
  | true => rw [Join.touches_of_leadsBack hback, Bool.and_self]

theorem joinedTables_table (earlier : List ContainerId) (previous : ContainerId)
    (rest : List ContainerId) :
    (q.joinedTables style earlier previous rest).map (·.table) =
      (rest.filterMap q.container?).map tableRef := by
  induction rest generalizing earlier previous with
  | nil => rfl
  | cons c rest ih =>
    rw [joinedTables, List.map_append, ih, List.filterMap_cons]
    cases q.container? c <;> rfl

namespace Coherent

variable (h : q.Coherent)
include h

/-! ### The order of the tables -/

theorem finishOrder_perm : q.finishOrder.Perm q.tableIds :=
  finishOrder_perm_of_nodup h.tableIds_nodup q.joins

theorem finishOrder_nodup : q.finishOrder.Nodup := h.finishOrder_perm.nodup_iff.mpr h.tableIds_nodup

theorem container?_of_mem_tables {k : Container} (hk : k ∈ q.tables) :
    q.container? k.id = some k :=
  h.housed.container?_iff.mpr ⟨List.mem_cons_of_mem _ hk, rfl⟩

/-- Every table that is named is known. -/
theorem container?_finishOrder {c : ContainerId} (hc : c ∈ q.finishOrder) :
    ∃ k ∈ q.tables, k.id = c ∧ q.container? c = some k := by
  obtain ⟨k, hk, rfl⟩ := h.mem_tableIds.mp (h.finishOrder_perm.mem_iff.mp hc)
  exact ⟨k, hk, rfl, h.container?_of_mem_tables hk⟩

theorem tablesInOrder_perm : q.tablesInOrder.Perm q.tables := by
  have htables : q.tableIds.filterMap q.container? = q.tables := by
    rw [← h.mapped, List.filterMap_map]
    have hknown : ∀ k ∈ q.tables, (q.container? ∘ (·.id)) k = some k :=
      fun k hk => h.container?_of_mem_tables hk
    rw [List.filterMap_congr hknown, List.filterMap_some]
  exact htables ▸ h.finishOrder_perm.filterMap q.container?

theorem tablesInOrder_ids : q.tablesInOrder.map (·.id) = q.finishOrder := by
  rw [tablesInOrder, List.map_filterMap]
  have hknown : ∀ c ∈ q.finishOrder, (q.container? c).map (·.id) = some c := by
    intro c hc
    obtain ⟨k, -, rfl, hk⟩ := h.container?_finishOrder hc
    rw [hk, Option.map_some]
  rw [List.filterMap_congr hknown, List.filterMap_some]

/-- The first table of the order is the one behind the keyword, the others are joined to it. -/
theorem namedTables_eq (style : Style) :
    (q.statement style).namedTables = q.tablesInOrder.map tableRef := by
  rw [Statement.namedTables, statement, fromClause?, tablesInOrder]
  cases horder : q.finishOrder with
  | nil => rfl
  | cons c rest =>
    obtain ⟨k, -, rfl, hk⟩ := h.container?_finishOrder (c := c) (by simp [horder])
    dsimp only
    rw [List.filterMap_cons, hk]
    simp only [Option.map_some, Option.getD_some, List.map_cons, joinedTables_table]

/-! ### The conditions -/

theorem container_mem_finishOrder {j : Join} (hj : j ∈ q.joins.joins) (side : Side) :
    (j.atSide side).container ∈ q.finishOrder :=
  h.finishOrder_perm.mem_iff.mpr (h.end_mem_tableIds hj side)

/-- The joins that lead back from a table to those before it are the ones whose condition stands
there. -/
theorem filter_leadsBack {i : Nat} {c : ContainerId} (hc : q.finishOrder[i]? = some c) :
    q.joins.joins.filter (·.leadsBack (q.finishOrder.take i) c) = q.joinsPlacedAt c := by
  refine List.filter_congr fun j hj => ?_
  exact Join.leadsBack_take h.finishOrder_nodup (h.joins.apart j hj)
    (h.container_mem_finishOrder hj) hc

/-- Along the order, each table is joined on the conditions of the joins placed there. -/
theorem conditions_joinedTables {earlier rest : List ContainerId} (previous : ContainerId)
    (horder : earlier ++ rest = q.finishOrder) :
    (q.joinedTables style earlier previous rest).map (·.conditions) =
      rest.map fun c => (q.joinsPlacedAt c).filterMap (q.condition? style) := by
  -- the tables before the rest are those that the generator has named so far
  induction rest generalizing earlier previous with
  | nil => rfl
  | cons c rest ih =>
    have hc : q.finishOrder[earlier.length]? = some c := by
      rw [← horder, List.getElem?_append_right (Nat.le_refl _), Nat.sub_self,
        List.getElem?_cons_zero]
    obtain ⟨k, -, -, hk⟩ := h.container?_finishOrder (List.mem_of_getElem? hc)
    have htake : q.finishOrder.take earlier.length = earlier := by
      rw [← horder, List.take_left]
    have hback : q.joinsBack earlier c = q.joinsPlacedAt c := by
      rw [joinsBack_eq h.joins, ← h.filter_leadsBack hc, htake]
    have hrest : (earlier ++ [c]) ++ rest = q.finishOrder := by
      rw [← horder, List.append_assoc, List.singleton_append]
    rw [joinedTables, hk, Option.map_some, Option.toList_some, List.singleton_append,
      List.map_cons, List.map_cons, ih c hrest, joinedTable, hback]

theorem joined_conditions (style : Style) :
    (q.statement style).joined.map (·.conditions) =
      q.finishOrder.tail.map fun c => (q.joinsPlacedAt c).filterMap (q.condition? style) := by
  rw [Statement.joined, statement, fromClause?]
  cases horder : q.finishOrder with
  | nil => rfl
  | cons c rest =>
    obtain ⟨k, -, -, hk⟩ := h.container?_finishOrder (c := c) (by simp [horder])
    dsimp only
    rw [hk, List.tail_cons]
    exact h.conditions_joinedTables c horder.symm

/-- The container that the index has for the item at an end of a join is the one at that end. -/
theorem containerOf?_end {j : Join} (hj : j ∈ q.joins.joins) (side : Side) :
    ∃ k ∈ q.tables, k.id = (j.atSide side).container ∧
      q.containerOf? (j.atSide side).item = some k := by
  obtain ⟨k, hk, hid, hitem⟩ := (holdsEnd_iff h.housed).mp (h.ends j hj side)
  exact ⟨k, hk, hid, h.housed.containerOf?_iff.mpr ⟨List.mem_cons_of_mem _ hk, hitem⟩⟩

/-- **Every registered join has a condition**: its two items with its comparator between them. -/
theorem condition?_of_mem (style : Style) {j : Join} (hj : j ∈ q.joins.joins) :
    ∃ x ∈ q.items, ∃ y ∈ q.items, x.id = j.left.item ∧ y.id = j.right.item ∧
      q.condition? style j =
        some ⟨q.plainExpr style x, j.comparator, q.plainExpr style y⟩ := by
  obtain ⟨x, hx, hxid, hleft⟩ := h.item?_end hj .left
  obtain ⟨y, hy, hyid, hright⟩ := h.item?_end hj .right
  refine ⟨x, hx, y, hy, hxid, hyid, ?_⟩
  -- both ends are held, so the condition is never dropped
  change q.item? j.left.item = some x at hleft
  change q.item? j.right.item = some y at hright
  rw [condition?, hleft, hright]
  rfl

/-- No condition of a registered join is dropped. -/
theorem map_condition? (style : Style) {js : List Join} (hjs : ∀ j ∈ js, j ∈ q.joins.joins) :
    (js.filterMap (q.condition? style)).map some = js.map (q.condition? style) := by
  rw [List.map_filterMap_some_eq_filter_map_isSome, List.filter_eq_self]
  intro c hc
  obtain ⟨j, hj, rfl⟩ := List.mem_map.mp hc
  obtain ⟨x, -, y, -, -, -, hcond⟩ := h.condition?_of_mem style (hjs j hj)
  rw [hcond]
  rfl

/-- Each registered join is placed at one of the tables. -/
theorem joinsPlacedAt_perm : (q.finishOrder.flatMap q.joinsPlacedAt).Perm q.joins.joins := by
  refine flatMap_filter_perm h.finishOrder_nodup (Join.laterIn q.finishOrder) fun j hj => ?_
  rw [Join.laterIn]
  split
  · exact h.container_mem_finishOrder hj .right
  · exact h.container_mem_finishOrder hj .left

/-- No join is placed at the first table. -/
theorem joinsPlacedAt_first {c : ContainerId} (hc : q.finishOrder[0]? = some c) :
    q.joinsPlacedAt c = [] := by
  rw [← h.filter_leadsBack hc, List.take_zero, List.filter_eq_nil_iff]
  intro j hj
  rw [Join.leadsBack_iff (h.joins.apart j hj)]
  rintro ⟨d, hd, -⟩
  exact absurd hd List.not_mem_nil

/-- The table at a position behind the first one, and its conditions. -/
theorem joined_at {i : Nat} {t : JoinedTable} (ht : (q.statement style).joined[i]? = some t)
    {k : Container} (hk : q.tablesInOrder[i + 1]? = some k) :
    t.table = tableRef k ∧
      t.conditions = (q.joinsPlacedAt k.id).filterMap (q.condition? style) := by
  have hc : q.finishOrder[i + 1]? = some k.id := by
    rw [← h.tablesInOrder_ids, List.getElem?_map, hk, Option.map_some]
  constructor
  · -- named tables include the first one, so the places differ by one
    have hnamed : (q.statement style).namedTables[i + 1]? = some t.table := by
      rw [Statement.joined] at ht
      rw [Statement.namedTables]
      cases htables : (q.statement style).tables with
      | none => simp [htables] at ht
      | some f =>
        simp only [htables, Option.map_some, Option.getD_some] at ht
        simp [ht]
    rw [h.namedTables_eq, List.getElem?_map, hk] at hnamed
    exact (Option.some.inj hnamed).symm
  · have hconditions : ((q.statement style).joined.map (·.conditions))[i]? = some t.conditions := by
      rw [List.getElem?_map, ht, Option.map_some]
    rw [h.joined_conditions, List.getElem?_map, List.getElem?_tail, hc] at hconditions
    exact (Option.some.inj hconditions).symm

theorem length_joined (style : Style) :
    (q.statement style).joined.length = q.finishOrder.length - 1 := by
  have hlength := congrArg List.length (h.joined_conditions style)
  rwa [List.length_map, List.length_map, List.length_tail] at hlength

/-- No join is placed at a table if none connects it to the ones before it. -/
theorem joinsPlacedAt_eq_nil_iff {i : Nat} {c : ContainerId} (hc : q.finishOrder[i]? = some c) :
    q.joinsPlacedAt c = [] ↔
      ∀ d ∈ q.finishOrder.take i, ∀ j ∈ q.joins.joins, j.connects c d = false := by
  -- the joins placed at a table are the ones that lead back from it
  rw [← h.filter_leadsBack hc, List.filter_eq_nil_iff]
  constructor
  · intro hnone d hd j hj
    have hback := hnone j hj
    rw [Join.leadsBack_iff (h.joins.apart j hj)] at hback
    exact Bool.eq_false_iff.mpr fun hconnects => hback ⟨d, hd, hconnects⟩
  · intro hnone j hj hback
    obtain ⟨d, hd, hconnects⟩ := (Join.leadsBack_iff (h.joins.apart j hj)).mp hback
    exact Bool.eq_false_iff.mp (hnone d hd j hj) hconnects

/-- The search for cross joins looks for a table without any join placed there. -/
theorem containsCrossJoins_iff :
    q.containsCrossJoins = true ↔
      ∃ i c, q.finishOrder[i + 1]? = some c ∧ q.joinsPlacedAt c = [] := by
  have hstart : q.containsCrossJoins = startsApart q.joins [] q.finishOrder := rfl
  have hnot : ∀ c d, q.joins.areJoined c d = false ↔
      ∀ j ∈ q.joins.joins, j.connects c d = false := by
    intro c d
    rw [← Bool.not_eq_true, h.joins.areJoined_iff]
    push Not
    simp only [Bool.not_eq_true]
  rw [hstart, startsApart_iff]
  simp only [List.nil_append, hnot]
  constructor
  · rintro ⟨i, c, hc, hne, hapart⟩
    cases i with
    | zero =>
      -- there is nothing before the first table
      exact absurd List.take_zero hne
    | succ i => exact ⟨i, c, hc, (h.joinsPlacedAt_eq_nil_iff hc).mpr hapart⟩
  · rintro ⟨i, c, hc, hnone⟩
    refine ⟨i + 1, c, hc, ?_, (h.joinsPlacedAt_eq_nil_iff hc).mp hnone⟩
    have hlength := (List.getElem?_eq_some_iff.mp hc).1
    rw [Ne, List.take_eq_nil_iff]
    rintro (hzero | hnil)
    · exact absurd hzero (Nat.succ_ne_zero i)
    · rw [hnil] at hlength
      exact absurd hlength (Nat.not_lt_zero _)

/-- The table at a position of the order, by its identity. -/
theorem exists_tablesInOrder {i : Nat} {c : ContainerId} (hc : q.finishOrder[i]? = some c) :
    ∃ k, q.tablesInOrder[i]? = some k ∧ k.id = c := by
  rw [← h.tablesInOrder_ids, List.getElem?_map] at hc
  exact Option.map_eq_some_iff.mp hc

theorem finishOrder_at {i : Nat} {k : Container} (hk : q.tablesInOrder[i]? = some k) :
    q.finishOrder[i]? = some k.id := by
  rw [← h.tablesInOrder_ids, List.getElem?_map, hk, Option.map_some]

/-- The ends of a join that is placed at a table are at tables named up to there. -/
theorem end_mem_take {i : Nat} {k : Container} (hk : q.tablesInOrder[i]? = some k) {j : Join}
    (hj : j ∈ q.joinsPlacedAt k.id) (side : Side) :
    ∃ e ∈ q.tablesInOrder.take (i + 1), q.containerOf? (j.atSide side).item = some e := by
  obtain ⟨hjq, hlater⟩ := List.mem_filter.mp hj
  obtain ⟨e, he, hid, hcontainer⟩ := h.containerOf?_end hjq side
  have htake := Join.mem_take_of_laterIn h.finishOrder_nodup (h.container_mem_finishOrder hjq)
    (h.finishOrder_at hk) (decide_eq_true_iff.mp hlater) side
  rw [← h.tablesInOrder_ids, ← List.map_take, ← hid] at htake
  obtain ⟨e', he', hid'⟩ := List.mem_map.mp htake
  have htable : e' ∈ q.tables := h.tablesInOrder_perm.mem_iff.mp (List.mem_of_mem_take he')
  -- no two tables have the same identity
  have heq : e' = e :=
    h.housed.eq_of_id (List.mem_cons_of_mem _ htable) (List.mem_cons_of_mem _ he) hid'
  exact ⟨e, heq ▸ he', hcontainer⟩

end Coherent

end Query

end VisualQuery
