import VisualQuery.Document.Read
import VisualQuery.Proofs.History
import VisualQuery.Proofs.Json.Records

/-!
# The text of a document is read back

Writing and reading are two separate lists of the same fields, so that they agree is a fact about
every field. It is put together from the parts of a document, from items and ends of joins up to the
document: each part is a record whose fields are read back (`Json.Reader.Fills`).

What a text does not hold is the container that an item knows as its own. The items that are read
know none; loading tells them again. A position is the one part that may be anything, so it is the
one with conditions: doubles may come back changed in the last bit, and a reader that keeps values
goes down to a fixed depth only, of which the document itself takes three levels.
-/

namespace VisualQuery

open Json (RecordField)
open Json.Reader (ReadsBack Takes Folds Fills bind_ok peek_spaces advance_cons colon_bind
  foldMembers_indentedMembers endObject_cons readsBack_text readsBack_bool readsBack_wholeIn)

/-! ### What a text does not hold -/

/-- The item, knowing no container. -/
def Item.withoutParent (x : Item) : Item := { x with parent := none }

/-- The container with items that know none. -/
def Container.withoutParents (c : Container) : Container :=
  { c with items := c.items.map Item.withoutParent }

/-- The document with items that know no container. -/
def Document.withoutParents (d : Document) : Document :=
  { d with
    constants := d.constants.withoutParents
    tables := d.tables.map Container.withoutParents }

/-! ### Scalars -/

theorem Uuid.readsBack (u : Uuid) : ReadsBack Json.Reader.uuid u.toJson u := by
  refine .parsed ?_
  show ofText? (String.ofList u.text).toList = some u
  rw [String.toList_ofList, ofText?_text]

theorem readsBack_text? (s : Option String) : ReadsBack Json.Reader.text? (.ofText? s) s :=
  .ofOption readsBack_text (by simp) s

theorem readsBack_ofNat {high : Int} {n : Nat} (h : n < high) (hhigh : high ≤ 0x10000000000000000) :
    ReadsBack (Json.Reader.wholeIn 0 high) (.ofNat n) n :=
  readsBack_wholeIn ⟨Int.natCast_nonneg n, h⟩ (by decide) hhigh

theorem ofNat_ne_null {n : Nat} (h : (n : Int) < 0x10000000000000000) :
    Json.ofNat n ≠ .null := by
  have hfits : -0x8000000000000000 ≤ (n : Int) ∧ (n : Int) < 0x10000000000000000 :=
    ⟨Int.le_trans (by decide) (Int.natCast_nonneg n), h⟩
  rw [Json.ofNat, Json.ofInt, Json.Whole.ofInt?, dif_pos hfits]
  exact Json.noConfusion

/-! ### Items and containers -/

theorem ItemKind.readsBack (kind : ItemKind) (depth : Nat) :
    ReadsBack (Json.Reader.word ItemKind.names depth) (.text kind.word) kind :=
  .word (by cases kind <;> rfl) depth

theorem GroupFunction.readsBack (f : GroupFunction) (depth : Nat) :
    ReadsBack (Json.Reader.word GroupFunction.names depth) (.text f.code) f :=
  .word (by cases f <;> rfl) depth

theorem SortOrder.readsBack (o : SortOrder) (depth : Nat) :
    ReadsBack (Json.Reader.word SortOrder.names depth) (.text o.code) o :=
  .word (by cases o <;> rfl) depth

theorem Comparator.readsBack (c : Comparator) (depth : Nat) :
    ReadsBack (Json.Reader.word Comparator.names depth) (.text c.word) c :=
  .word (by cases c <;> rfl) depth

theorem readsBack_columnWidth (width : Option UInt32) :
    ReadsBack (Json.Reader.nullable (.wholeIn 0 0x100000000))
      (.ofOption (fun w => .ofNat w.toNat) width) (width.map fun w => (w.toNat : Int)) := by
  cases width with
  | none => exact Json.Reader.readsBack_nullable_null _
  | some w =>
    have hw : (w.toNat : Int) < 0x100000000 := by
      have hlt := w.toNat_lt
      omega
    have hread := readsBack_ofNat hw (by decide)
    -- a missing width is `null`, which no number is
    have hne : Json.ofNat w.toNat ≠ .null := ofNat_ne_null (by omega)
    rw [Json.ofOption, Option.map_some]
    exact hread.nullable hne

/-- An item is read back without its container. -/
theorem Item.readsBack (x : Item) (depth : Nat) :
    ReadsBack (Item.read (depth + 1)) x.toJson x.withoutParent := by
  have hwidth : ((x.columnWidth.map fun w => (w.toNat : Int)).map fun n => UInt32.ofNat n.toNat) =
      x.columnWidth := by
    cases x.columnWidth with
    | none => rfl
    | some w => exact congrArg some UInt32.ofNat_toNat
  -- field by field in the order they are written; `nested` ones go one level deeper
  refine .record (by decide) ?_
  refine .flat (Uuid.readsBack x.id.uuid) ?_
  refine .flat (readsBack_text x.name) ?_
  refine .nested (x.kind.readsBack depth) ?_
  refine .flat (readsBack_text? x.aliasText) ?_
  refine .flat (readsBack_columnWidth x.columnWidth) ?_
  refine .flat (readsBack_bool x.selected) ?_
  refine .flat (readsBack_text? x.whereText) ?_
  refine .nested (x.groupFunction.readsBack depth) ?_
  refine .flat (readsBack_text? x.havingText) ?_
  refine .nested (x.sortOrder.readsBack depth) ?_
  -- what the reader builds is the item less its parent, which is not written
  dsimp only
  rw [hwidth]
  exact .nil _

/-- The tag comes first, so it has not been seen before. -/
theorem ContainerKind.takes_type {tag : Tag} {name : String} (h : Tag.names.lookup name = some tag)
    (depth : Nat) (members : List (String × Json)) :
    Takes (readMember depth) ("type", .text name) (none, members) (some tag, members) := by
  intro level rest hrest
  have htag : ReadsBack readTag (.text name) tag := by
    unfold readTag
    exact .parsed h
  unfold readMember
  exact colon_bind htag _ level hrest

theorem ContainerKind.takes_schema {v : Json} {depth : Nat}
    (h : ReadsBack (Json.Reader.value depth) v v) (seen : Option Tag × List (String × Json)) :
    Takes (readMember depth) ("schema", v) seen (seen.1, ("schema", v) :: seen.2) := by
  intro level rest hrest
  unfold readMember
  rw [if_neg (show ¬"schema" = "type" by decide)]
  exact colon_bind h _ level hrest

theorem ContainerKind.readsBack_of_folds {depth : Nat} {ms : List (String × Json)} {tag : Tag}
    {members : List (String × Json)} {kind : ContainerKind}
    (h : Folds (readMember depth) ms (none, []) (some tag, members))
    (hkind : ofMembers tag members.reverse = some kind) :
    ReadsBack (read (depth + 1)) (.object ms) kind := by
  unfold read
  refine .of_object rfl fun level spaces rest hspaces => ?_
  -- the tag may come anywhere among the members, so they are collected before the kind is made
  rw [bind_ok (foldMembers_indentedMembers h level hspaces rest)]
  show (Json.Reader.endObject >>= _) _ = _
  rw [bind_ok (endObject_cons rest), hkind]
  rfl

theorem ContainerKind.readsBack (kind : ContainerKind) (depth : Nat) :
    ReadsBack (read (depth + 1)) kind.toJson kind := by
  cases kind with
  | constants =>
    have htag : Tag.names.lookup "constants" = some .constants := rfl
    exact readsBack_of_folds (.cons (takes_type htag depth []) (.nil _)) rfl
  | table schema =>
    have htag : Tag.names.lookup "table" = some .table := rfl
    have hscalar : ReadsBack (Json.Reader.value depth) (.ofText? schema) (.ofText? schema) := by
      cases schema <;> exact Json.Reader.readsBack_value _ (by rfl) depth (Nat.zero_le depth)
    refine readsBack_of_folds (.cons (takes_type htag depth [])
      (.cons (takes_schema hscalar _) (.nil _))) ?_
    cases schema <;> rfl

theorem Position.ofJson_value (p : Position) : ofJson p.value = p := by
  obtain ⟨v, hv⟩ := p
  simp only [ofJson, hv]

/-- A container is read back, its items without it. The kind and the items take a level less than
the container, and an item takes another. -/
theorem Container.readsBack (c : Container) {depth : Nat}
    (hfloat : c.position.value.isFloatFree = true) (hdepth : c.position.value.depth ≤ depth + 2) :
    ReadsBack (Container.read (depth + 3)) c.toJson c.withoutParents := by
  -- the items sit two levels further in, the position takes what depth is left
  have hitems : ReadsBack (Json.Reader.list Item.read (depth + 2))
      (.array (c.items.map Item.toJson)) (c.items.map Item.withoutParent) :=
    .list_map fun x _ => x.readsBack depth
  refine .record (by decide) ?_
  refine .flat (Uuid.readsBack c.id.uuid) ?_
  refine .flat (readsBack_text c.name) ?_
  refine .flat (readsBack_text? c.aliasText) ?_
  refine .nested (c.kind.readsBack (depth + 1)) ?_
  refine .nested hitems ?_
  refine .nested (Json.Reader.readsBack_value _ hfloat (depth + 2) hdepth) ?_
  dsimp only
  rw [Position.ofJson_value]
  exact .nil _

/-! ### Joins -/

theorem JoinEnd.readsBack (e : JoinEnd) (depth : Nat) :
    ReadsBack (JoinEnd.read (depth + 1)) e.toJson e := by
  refine .record (by decide) ?_
  refine .flat (Uuid.readsBack e.container.uuid) ?_
  refine .flat (Uuid.readsBack e.item.uuid) ?_
  refine .flat (readsBack_bool e.outer) ?_
  exact .nil _

theorem Join.readsBack (j : Join) (depth : Nat) :
    ReadsBack (Join.read (depth + 2)) j.toJson j := by
  refine .record (by decide) ?_
  refine .flat (Uuid.readsBack j.id.uuid) ?_
  refine .nested (j.left.readsBack depth) ?_
  refine .nested (j.right.readsBack depth) ?_
  refine .nested (j.comparator.readsBack (depth + 1)) ?_
  refine .flat (readsBack_text? j.name) ?_
  exact .nil _

/-! ### Documents -/

namespace Document

theorem readsBack_ids (ids : List ItemId) (depth : Nat) :
    ReadsBack (readIds (depth + 1)) (.array (ids.map (·.uuid.toJson))) ids := by
  have hids : ReadsBack (readIds (depth + 1)) (.array (ids.map (·.uuid.toJson)))
      (ids.map fun x => x) :=
    .list_map fun x _ => (Uuid.readsBack x.uuid).map ItemId.mk
  rwa [List.map_id'] at hids

/-- A document is read back, whatever it is filled up from. -/
theorem readsBack (d : Document) (blank : Document) {depth : Nat}
    (hfloat : ∀ c ∈ d.constants :: d.tables, c.position.value.isFloatFree = true)
    (hdepth : ∀ c ∈ d.constants :: d.tables, c.position.value.depth ≤ depth + 2) :
    ReadsBack (read blank (depth + 5)) d.toJson d.withoutParents := by
  -- the constants are one level less deep than the tables, which sit in an array
  have hcontainer : ∀ c ∈ d.constants :: d.tables, ∀ more,
      ReadsBack (Container.read (depth + more + 3)) c.toJson c.withoutParents := by
    intro c hc more
    have hposition := hdepth c hc
    exact c.readsBack (hfloat c hc) (by omega)
  have htables : ReadsBack (Json.Reader.list Container.read (depth + 4))
      (.array (d.tables.map Container.toJson)) (d.tables.map Container.withoutParents) :=
    .list_map fun c hc => hcontainer c (List.mem_cons_of_mem _ hc) 0
  have hjoins : ReadsBack (Json.Reader.list Join.read (depth + 4))
      (.array (d.joins.map Join.toJson)) (d.joins.map fun j => j) :=
    .list_map fun j _ => j.readsBack (depth + 1)
  -- limits and zoom are read as whole numbers in a range, which is that of their type
  have hlimit : ∀ n : UInt64, ReadsBack (Json.Reader.wholeIn 0 0x10000000000000000)
      (.ofNat n.toNat) (n.toNat : Int) := by
    intro n
    have hlt := n.toNat_lt
    exact readsBack_ofNat (by omega) (by decide)
  have hzoom : ReadsBack (Json.Reader.wholeIn (-0x80000000) 0x80000000) (.ofInt d.zoom.toInt)
      d.zoom.toInt :=
    readsBack_wholeIn ⟨d.zoom.le_toInt, d.zoom.toInt_lt⟩ (by decide) (by decide)
  -- field by field, in the order they are written
  refine .record (by decide) ?_
  refine .flat (Uuid.readsBack d.id.uuid) ?_
  refine .flat (readsBack_text d.name) ?_
  refine .nested (hcontainer d.constants List.mem_cons_self 1) ?_
  refine .nested htables ?_
  refine .nested hjoins ?_
  refine .nested (readsBack_ids d.selectedItems _) ?_
  refine .nested (readsBack_ids d.orderByItems _) ?_
  refine .flat (readsBack_text? d.globalWhere) ?_
  refine .flat (readsBack_bool d.grouping) ?_
  refine .flat (hlimit d.rowLimit) ?_
  refine .flat (hlimit d.streamingRowLimit) ?_
  refine .flat (readsBack_bool d.streaming) ?_
  refine .flat hzoom ?_
  refine .flat (readsBack_text? d.userOverride) ?_
  dsimp only
  rw [List.map_id', Int.toNat_natCast, Int.toNat_natCast, UInt64.ofNat_toNat, UInt64.ofNat_toNat,
    Int32.ofInt_toInt]
  exact .nil _

/-- **What is written is read back.** The text of a document is accepted, and what is read is the
document with items that know no container, as long as the positions hold no double and are nested
at most 124 levels deep: the text and the reader agree on every other value, whatever the
characters of a text, the size of a number and the kind of a container, and nothing is taken from
the new query that missing fields would be filled up from. -/
theorem ofText_toText (d : Document) (supply : IdSupply)
    (hfloat : ∀ c ∈ d.constants :: d.tables, c.position.value.isFloatFree = true)
    (hdepth : ∀ c ∈ d.constants :: d.tables, c.position.value.depth + 3 ≤ Json.maxDepth) :
    ((ofText d.toText).run supply).1 = .ok d.withoutParents := by
  -- the document, its containers and their positions are three of the levels
  have hinner : ∀ c ∈ d.constants :: d.tables, c.position.value.depth ≤ 122 + 2 :=
    fun c hc => Nat.le_of_add_le_add_right (hdepth c hc)
  have hread := d.readsBack (ofQuery ((Query.new "").run supply).1) hfloat hinner
  exact hread.readWhole

/-- The sample query with a table at a place that is an object of objects. -/
def placedQuery : Query :=
  let label : Json := .object [("text", .text "said \"here\"\n"), ("offset", .ofInt (-12))]
  ((Session.ofQuery Session.sampleQuery).run
    [.setContainerPosition ⟨.ofNat 10⟩
      (.ofJson (.object [("label", label), ("x", .ofInt 3)]))]).query

/-- The query is reached by edits, one of its tables is nested two levels deep, and its document is
read back. -/
theorem ofText_toText_placed :
    placedQuery.Reachable ∧ placedQuery.tables.map (·.position.value.depth) = [2, 0, 0] ∧
      ((ofText (ofQuery placedQuery).toText).run (IdSupply.after 0)).1 =
        .ok (ofQuery placedQuery).withoutParents := by
  have hreachable : placedQuery.Reachable :=
    Session.run_reachable (fun _ hs => absurd hs List.not_mem_nil) Session.sampleQuery_reachable
      (by simp [Edit.WellFormed])
  refine ⟨hreachable, by decide, ofText_toText _ _ ?_ ?_⟩
  · decide
  · decide

end Document

end VisualQuery
