import VisualQuery.Proofs.Query.Refusals

/-!
# Ordinary changes

Beside its parts a query has two things that hardly any change is about: the text that the user put
in place of the statement, and what belongs to an open compound edit. Together they are the cover of
a query (`Query.Cover`). An ordinary change neither looks at the cover nor writes it, except that an
announcement marks an open compound edit (`Change.Ordinary`).

That a change is ordinary is read off its shape, part by part, once for each change of the library.
What follows from it is proved by induction on how such a change is put together, and then holds of
all of them. The exceptions are the changes that open and close compound edits, those that are made
as one, and those that are about the text.
-/

namespace VisualQuery

open Change

namespace Query

/-- The text in place of the statement and what belongs to a compound edit. -/
structure Cover where
  /-- The text, if there is one. -/
  text : Option String
  /-- How many compound edits are open inside one another. -/
  depth : Nat
  /-- The message of the outermost one. -/
  message : String
  /-- Whether it is marked. -/
  mark : Bool

/-- The cover of a query. -/
def cover (q : Query) : Cover :=
  ⟨q.userOverride, q.compoundDepth, q.compoundMessage, q.pending⟩

/-- The query under another cover. -/
def covered (c : Cover) (q : Query) : Query :=
  { q with
    userOverride := c.text, compoundDepth := c.depth, compoundMessage := c.message
    pending := c.mark }

theorem covered_cover (q : Query) : q.covered q.cover = q := rfl

/-- The same write under any cover, which is to leave the cover alone. -/
def LeavesCover (g : Query → Query) : Prop := ∀ q c, g (q.covered c) = (g q).covered c

theorem LeavesCover.cover_eq {g : Query → Query} (hg : LeavesCover g) (q : Query) :
    (g q).cover = q.cover := by
  have hself := hg q q.cover
  rw [covered_cover] at hself
  rw [hself]
  rfl

end Query

/-! ### Changes that are put together from ordinary parts -/

namespace Change

open Query (LeavesCover)

variable {α β : Type} {m m' : Change α}

/-- **A change that neither looks at the cover nor writes it** and announces no markers. -/
inductive Ordinary : {α : Type} → Change α → Prop where
  /-- Nothing happens. -/
  | pure {α : Type} (a : α) : Ordinary (pure a)
  /-- The change is refused. -/
  | refuse {α : Type} (e : QueryError) : Ordinary (refuse e : Change α)
  /-- It looks at the query, and what comes of it is the same under any cover. -/
  | look {α : Type} {f : Query → Change α} (hf : ∀ q, Ordinary (f q))
      (hsame : ∀ q c, f (q.covered c) = f q) : Ordinary (get >>= f)
  /-- It writes the query. -/
  | modify {g : Query → Query} (hg : LeavesCover g) : Ordinary (modify g)
  /-- It announces a change. -/
  | announce {e : Event} (he : e.isMarker = false) : Ordinary (announce e)
  /-- It goes on whatever comes of a part. -/
  | attempt {α : Type} {m : Change α} (hm : Ordinary m) : Ordinary (attempt m)
  /-- It is made of two parts. -/
  | bind {α β : Type} {m : Change α} {f : α → Change β} (hm : Ordinary m)
      (hf : ∀ a, Ordinary (f a)) : Ordinary (m >>= f)

namespace Ordinary

theorem need (e : QueryError) (o : Option α) : Ordinary (need e o) := by
  cases o with
  | none => exact refuse e
  | some a => exact pure a

theorem ite {c : Prop} [Decidable c] (hm : Ordinary m) (hm' : Ordinary m') :
    Ordinary (if c then m else m') := by
  split
  · exact hm
  · exact hm'

theorem write {g : Query → Query} (hg : LeavesCover g) {e : Event} (he : e.isMarker = false) :
    Ordinary (do Change.modify g; Change.announce e) :=
  (modify hg).bind fun _ => announce he

theorem announceAll {es : List Event} (hes : ∀ e ∈ es, e.isMarker = false) :
    Ordinary (announceAll es) := by
  induction es with
  | nil => exact .pure ()
  | cons e rest ih =>
    refine (announce (hes e List.mem_cons_self)).bind fun _ => ?_
    exact ih fun e he => hes e (List.mem_cons_of_mem _ he)

theorem map (hm : Ordinary m) (f : α → β) : Ordinary (f <$> m) :=
  bind hm fun a => pure (f a)

end Ordinary

end Change

namespace Query

/-! ### The changes of the library -/

theorem modifyContainer_leavesCover (id : ContainerId) (f : Container → Container) :
    LeavesCover fun q => q.modifyContainer id f := by
  intro q c
  show (if id = q.constants.id then _ else _) =
    (if id = q.constants.id then _ else _ : Query).covered c
  split
  · rfl
  · rfl

theorem foldl_enlist_leavesCover (xs : List Item) : LeavesCover fun q => xs.foldl enlist q := by
  intro q c
  show xs.foldl enlist (q.covered c) = (xs.foldl enlist q).covered c
  rw [foldl_enlist, foldl_enlist]
  rfl

theorem enlist_leavesCover (x : Item) : LeavesCover fun q => q.enlist x :=
  foldl_enlist_leavesCover [x]

/-- A container is changed, and the index along with it. -/
theorem writeContainer_leavesCover (id : ContainerId) (f : Container → Container)
    (index : ItemIndex → ItemIndex) :
    LeavesCover fun q => { q.modifyContainer id f with itemIndex := index q.itemIndex } := by
  intro q c
  have hwrite : (q.covered c).modifyContainer id f = (q.modifyContainer id f).covered c :=
    modifyContainer_leavesCover id f q c
  show ({ (q.covered c).modifyContainer id f with itemIndex := index q.itemIndex } : Query) = _
  rw [hwrite]
  rfl

theorem needContainer_ordinary (id : ContainerId) : Ordinary (needContainer id) := by
  refine Ordinary.look (fun q => .need _ _) fun _ _ => ?_
  rfl

theorem needItem_ordinary (id : ItemId) : Ordinary (needItem id) := by
  rw [needItem]
  refine Ordinary.look (fun q => ?_) fun _ _ => rfl
  refine (Ordinary.need _ _).bind fun c => (needContainer_ordinary c).bind fun container => ?_
  exact (Ordinary.need _ _).bind fun item => .pure _

theorem setItemProperty_ordinary {β : Type} [DecidableEq β] (id : ItemId) (property : Property)
    (read : Item → β) (write : β → Item → Item) (show' : β → PropertyValue) (new : β) :
    Ordinary (setItemProperty id property read write show' new) := by
  rw [setItemProperty]
  refine (needItem_ordinary id).bind fun found => .ite (.pure ()) ?_
  exact .write (modifyContainer_leavesCover _ _) rfl

theorem insertItem_ordinary (c : ContainerId) (index : Nat) (x : Item) :
    Ordinary (insertItem c index x) := by
  rw [insertItem]
  refine Ordinary.look (fun q => .ite ((Ordinary.refuse _).bind fun _ => ?_) ?_) fun _ _ => rfl
  all_goals
    refine (needContainer_ordinary c).bind fun _ => ?_
    refine (Ordinary.modify (writeContainer_leavesCover c _ (·.set x.id c))).bind fun _ => ?_
    refine (Ordinary.modify (enlist_leavesCover x)).bind fun _ => ?_
    exact (Ordinary.announce rfl).bind fun _ => .pure _

theorem addItem_ordinary (c : ContainerId) (x : Item) : Ordinary (addItem c x) :=
  Ordinary.look (fun _ => insertItem_ordinary c _ x) fun _ _ => rfl

theorem addConstant_ordinary (id : ItemId) (text : String) : Ordinary (addConstant id text) := by
  rw [addConstant]
  refine .ite ((Ordinary.refuse _).bind fun _ => ?_) ?_
  all_goals exact Ordinary.look (fun _ => addItem_ordinary _ _) fun _ _ => rfl

theorem setItemSelected_ordinary (id : ItemId) (selected : Bool) :
    Ordinary (setItemSelected id selected) := by
  rw [setItemSelected]
  refine (needItem_ordinary id).bind fun found => .ite (.pure ()) ?_
  refine (Ordinary.modify (modifyContainer_leavesCover _ _)).bind fun _ => ?_
  refine .write (fun q c => ?_) rfl
  -- the item enters the lists, or it leaves them
  split
  · exact enlist_leavesCover _ q c
  · rfl

theorem setSortOrder_ordinary (id : ItemId) (order : SortOrder) :
    Ordinary (setSortOrder id order) := by
  rw [setSortOrder]
  refine (needItem_ordinary id).bind fun found => .ite (.pure ()) ?_
  refine (Ordinary.modify (modifyContainer_leavesCover _ _)).bind fun _ => ?_
  exact .ite (.write (fun _ _ => rfl) rfl) (.announce rfl)

theorem moveSelectedItem_ordinary (id : ItemId) (index : Nat) :
    Ordinary (moveSelectedItem id index) := by
  rw [moveSelectedItem]
  refine Ordinary.look (fun q => ?_) fun _ _ => rfl
  split
  · exact .refuse _
  · exact .write (fun _ _ => rfl) rfl

theorem renameItem_ordinary (id : ItemId) (name : String) : Ordinary (renameItem id name) := by
  rw [renameItem]
  refine .ite ((Ordinary.refuse _).bind fun _ => ?_) ?_
  all_goals exact setItemProperty_ordinary _ _ _ _ _ _

theorem addTable_ordinary (c : Container) : Ordinary (addTable c) := by
  rw [addTable]
  refine .ite ((Ordinary.refuse _).bind fun _ => ?_) ?_
  -- what is behind a refusal is the same as what comes without one
  all_goals
    refine Ordinary.look (fun q => .ite ((Ordinary.refuse _).bind fun _ => ?_) ?_) fun _ _ => rfl
    all_goals
      split
      · exact .refuse _
      · refine (Ordinary.modify fun _ _ => rfl).bind fun _ => ?_
        refine (Ordinary.modify (foldl_enlist_leavesCover c.items)).bind fun _ => ?_
        exact (Ordinary.announce rfl).bind fun _ => .pure _

theorem setContainerProperty_ordinary {β : Type} (id : ContainerId) (property : Property)
    (read : Container → β) (same : β → β → Bool) (write : β → Container → Container)
    (show' : β → PropertyValue) (new : β) :
    Ordinary (setContainerProperty id property read same write show' new) := by
  rw [setContainerProperty]
  refine (needContainer_ordinary id).bind fun c => .ite (.pure ()) ?_
  exact .write (modifyContainer_leavesCover id _) rfl

theorem checkEnd_ordinary (id : JoinId) (e : JoinEnd) : Ordinary (checkEnd id e) := by
  rw [checkEnd]
  refine Ordinary.look (fun q => .ite ((Ordinary.refuse _).bind fun _ => ?_) ?_) fun _ _ => rfl
  all_goals exact (Ordinary.need _ _).bind fun table => .ite (.refuse _) (.pure ())

theorem addJoin_ordinary (j : Join) : Ordinary (addJoin j) := by
  rw [addJoin]
  refine (checkEnd_ordinary j.id j.left).bind fun _ => ?_
  refine (checkEnd_ordinary j.id j.right).bind fun _ => ?_
  refine Ordinary.look (fun q => ?_) fun _ _ => rfl
  split
  · exact .refuse _
  · refine (Ordinary.modify fun _ _ => rfl).bind fun _ => ?_
    exact (Ordinary.announce rfl).bind fun _ => .pure _

theorem joinItems_ordinary (id : JoinId) (left right : ItemId) :
    Ordinary (joinItems id left right) := by
  rw [joinItems]
  refine Ordinary.look (fun q => (Ordinary.need _ _).bind fun _ => ?_) fun _ _ => rfl
  refine Ordinary.look (fun q => (Ordinary.need _ _).bind fun _ => ?_) fun _ _ => rfl
  exact addJoin_ordinary _

theorem removeJoin_ordinary (id : JoinId) : Ordinary (removeJoin id) := by
  rw [removeJoin]
  refine Ordinary.look (fun q => (Ordinary.need _ _).bind fun found => ?_) fun _ _ => rfl
  refine (Ordinary.modify fun _ _ => rfl).bind fun _ => ?_
  exact (Ordinary.announce rfl).bind fun _ => .pure _

theorem setJoinOuter_ordinary (id : JoinId) (side : Side) (outer : Bool) :
    Ordinary (setJoinOuter id side outer) := by
  rw [setJoinOuter]
  refine Ordinary.look (fun q => ?_) fun _ _ => rfl
  split
  · exact .refuse _
  · refine (Ordinary.modify fun _ _ => rfl).bind fun _ => .announceAll fun e he => ?_
    obtain ⟨change, -, rfl⟩ := List.mem_map.mp he
    rfl

theorem setJoinProperty_ordinary {β : Type} [DecidableEq β] (id : JoinId) (property : Property)
    (read : Join → β) (write : β → Join → Join) (show' : β → PropertyValue) (new : β) :
    Ordinary (setJoinProperty id property read write show' new) := by
  rw [setJoinProperty]
  refine Ordinary.look (fun q => (Ordinary.need _ _).bind fun j => ?_) fun _ _ => rfl
  exact .ite (.pure ()) (.write (fun _ _ => rfl) rfl)

/-- Every setting that is not part of the cover. -/
theorem setSetting_ordinary {β : Type} [DecidableEq β] (property : Property) {read : Query → β}
    {write : β → Query → Query} (show' : β → PropertyValue) (new : β)
    (hread : ∀ q c, read (q.covered c) = read q) (hwrite : LeavesCover (write new)) :
    Ordinary (setSetting property read write show' new) := by
  rw [setSetting]
  refine Ordinary.look (fun q => .ite (.pure ()) (.write hwrite rfl)) fun q c => ?_
  rw [hread]
  rfl

/-! ### Cascades -/

theorem removeJoins_ordinary (ids : List JoinId) : Ordinary (removeJoins ids) := by
  induction ids with
  | nil => exact .pure ()
  | cons id ids ih =>
    rw [removeJoins]
    refine Ordinary.look (fun q => ?_) fun _ _ => rfl
    split
    · exact ih
    · refine (Ordinary.modify fun _ _ => rfl).bind fun _ => ?_
      exact (Ordinary.announce rfl).bind fun _ => ih

theorem detachItem_ordinary (id : ItemId) : Ordinary (detachItem id) := by
  rw [detachItem]
  refine (setItemSelected_ordinary id false).bind fun _ => ?_
  refine Ordinary.look (fun q => (removeJoins_ordinary _).bind fun _ => ?_) fun _ _ => rfl
  refine Ordinary.look (fun q => (Ordinary.need _ _).bind fun c => ?_) fun _ _ => rfl
  refine (needContainer_ordinary c).bind fun container => ?_
  refine (Ordinary.need _ _).bind fun removed => ?_
  refine (Ordinary.modify (writeContainer_leavesCover c _ (·.erase id))).bind fun _ => ?_
  exact (Ordinary.announce rfl).bind fun _ => .pure _

theorem deselectAll_ordinary (ids : List ItemId) : Ordinary (deselectAll ids) := by
  induction ids with
  | nil => exact .pure ()
  | cons id ids ih => exact (setItemSelected_ordinary id false).bind fun _ => ih

theorem detachTable_ordinary (id : ContainerId) : Ordinary (detachTable id) := by
  -- step by step along the edit: none of its parts opens or closes a bracket
  rw [detachTable]
  refine Ordinary.look (fun q => (Ordinary.need _ _).bind fun table => ?_) fun _ _ => rfl
  refine (deselectAll_ordinary _).bind fun _ => Ordinary.look (fun q => ?_) fun _ _ => rfl
  refine (Ordinary.modify fun _ _ => rfl).bind fun _ => ?_
  refine (Ordinary.announceAll fun e he => ?_).bind fun _ => ?_
  · obtain ⟨j, -, rfl⟩ := List.mem_map.mp he
    rfl
  refine Ordinary.look (fun q => (Ordinary.need _ _).bind fun table => ?_) fun _ _ => rfl
  refine (Ordinary.modify fun _ _ => rfl).bind fun _ => ?_
  exact (Ordinary.announce rfl).bind fun _ => .pure _

theorem detachTables_ordinary (ids : List ContainerId) : Ordinary (detachTables ids) := by
  induction ids with
  | nil => exact .pure ()
  | cons id ids ih => exact (detachTable_ordinary id).attempt.bind fun _ => ih

theorem detachItems_ordinary (ids : List ItemId) : Ordinary (detachItems ids) := by
  induction ids with
  | nil => exact .pure ()
  | cons id ids ih => exact (detachItem_ordinary id).bind fun _ => ih

theorem enterItems_ordinary (c : ContainerId) (ids : List ItemId) :
    Ordinary (enterItems c ids) := by
  induction ids with
  | nil => exact .pure ()
  | cons id ids ih =>
    refine (Ordinary.modify fun _ _ => rfl).bind fun _ => ?_
    exact (Ordinary.announce rfl).bind fun _ => ih

theorem resetConstants_ordinary (ids : BuiltinIds) : Ordinary (resetConstants ids) := by
  rw [resetConstants]
  refine Ordinary.look (fun q => (detachItems_ordinary _).bind fun _ => ?_) fun _ _ => rfl
  refine (Ordinary.modify fun _ _ => rfl).bind fun _ => ?_
  exact Ordinary.look (fun q => enterItems_ordinary _ _) fun _ _ => rfl

end Query

/-! ### Edits -/

namespace Edit

/-- Whether an edit is an ordinary change: it opens, closes or is made as no compound edit, and has
nothing to do with the text in place of the statement. -/
def isOrdinary : Edit → Bool
  | .startCompoundEdit _ | .endCompoundEdit | .removeTable _ | .removeItem _ => false
  | .defineOverride _ | .clearOverride | .reset _ => false
  | _ => true

/-- **Ordinary edits are ordinary changes.** -/
theorem change_ordinary {e : Edit} (he : e.isOrdinary = true) : Ordinary e.change := by
  -- what an edit returns does not matter
  cases e <;> refine Ordinary.map ?_ _
  case addTable table => exact Query.addTable_ordinary table
  case setContainerAlias | setContainerPosition =>
    exact Query.setContainerProperty_ordinary _ _ _ _ _ _ _
  case addItem container item => exact Query.addItem_ordinary container item
  case insertItem container index item => exact Query.insertItem_ordinary container index item
  case addConstant id text => exact Query.addConstant_ordinary id text
  case setItemSelected id selected => exact Query.setItemSelected_ordinary id selected
  case setSortOrder id order => exact Query.setSortOrder_ordinary id order
  case moveSelectedItem id index => exact Query.moveSelectedItem_ordinary id index
  case renameItem id name => exact Query.renameItem_ordinary id name
  case addJoin join => exact Query.addJoin_ordinary join
  case joinItems id left right => exact Query.joinItems_ordinary id left right
  case removeJoin id => exact Query.removeJoin_ordinary id
  case setJoinOuter id side outer => exact Query.setJoinOuter_ordinary id side outer
  case setSource source => exact .modify fun _ _ => rfl
  case setJoinComparator | setJoinName => exact Query.setJoinProperty_ordinary _ _ _ _ _ _
  case setItemAlias | setItemFilter | setItemHaving | setGroupFunction | setColumnWidth =>
    exact Query.setItemProperty_ordinary _ _ _ _ _ _
  case startCompoundEdit | endCompoundEdit | removeTable | removeItem =>
    exact absurd he Bool.false_ne_true
  case defineOverride | clearOverride | reset => exact absurd he Bool.false_ne_true
  -- the other settings
  all_goals exact Query.setSetting_ordinary _ _ _ (fun _ _ => rfl) fun _ _ => rfl

end Edit

end VisualQuery
