import VisualQuery.Json.Printer

/-!
# Positions

The position of a container on the user's screen is any JSON value. The model only passes it on,
but keeps the members of every object in the order of their names, each name once. That order is
part of the type: a `Position` is a value that sorting leaves alone, and `Position.ofJson` sorts
(`Json.sorted_sorted` says that sorting twice is sorting once).
-/

namespace VisualQuery

namespace Json

/-! ### Sorting twice is sorting once -/

/-- Members in the order of their names, each name once, whose values are sorted themselves. -/
structure Arranged (members : List (String × Json)) : Prop where
  /-- The names ascend. -/
  ascending : members.Pairwise fun a b => a.1 < b.1
  /-- Sorting leaves the values alone. -/
  values : ∀ m ∈ members, m.2.sorted = m.2

theorem mem_insertMember {name : String} {v : Json} {members : List (String × Json)}
    {m : String × Json} (h : m ∈ insertMember name v members) : m = (name, v) ∨ m ∈ members := by
  induction members with
  | nil => simpa [insertMember] using h
  | cons head rest ih =>
    obtain ⟨n, w⟩ := head
    rw [insertMember] at h
    split at h
    · rcases List.mem_cons.1 h with h | h
      · exact .inl h
      · exact .inr (List.mem_cons_of_mem _ h)
    · split at h
      · rcases List.mem_cons.1 h with h | h
        · exact .inl h
        · exact .inr h
      · rcases List.mem_cons.1 h with h | h
        · exact .inr (h ▸ List.mem_cons_self)
        · rcases ih h with h | h
          · exact .inl h
          · exact .inr (List.mem_cons_of_mem _ h)

theorem pairwise_insertMember {name : String} {v : Json} {members : List (String × Json)}
    (h : members.Pairwise fun a b => a.1 < b.1) :
    (insertMember name v members).Pairwise fun a b => a.1 < b.1 := by
  induction members with
  | nil => simp [insertMember]
  | cons head rest ih =>
    obtain ⟨n, w⟩ := head
    rw [List.pairwise_cons] at h
    rw [insertMember]
    split
    · next heq => exact List.pairwise_cons.2 ⟨fun m hm => heq ▸ h.1 m hm, h.2⟩
    · next hne =>
      split
      · next hlt =>
        refine List.pairwise_cons.2 ⟨fun m hm => ?_, List.pairwise_cons.2 h⟩
        rcases List.mem_cons.1 hm with rfl | hm
        · exact hlt
        · exact String.lt_trans hlt (h.1 m hm)
      · next hnlt =>
        refine List.pairwise_cons.2 ⟨fun m hm => ?_, ih h.2⟩
        rcases mem_insertMember hm with rfl | hm
        · exact Classical.not_not.1 fun hn =>
            hne (String.le_antisymm (String.not_lt.1 hn) (String.not_lt.1 hnlt))
        · exact h.1 m hm

theorem Arranged.insertMember {name : String} {v : Json} {members : List (String × Json)}
    (h : Arranged members) (hv : v.sorted = v) : Arranged (insertMember name v members) where
  ascending := pairwise_insertMember h.ascending
  values m hm := by
    rcases mem_insertMember hm with rfl | hm
    · exact hv
    · exact h.values m hm

theorem insertMember_of_forall_lt {name : String} {v : Json} {members : List (String × Json)}
    (h : ∀ m ∈ members, m.1 < name) :
    Json.insertMember name v members = members ++ [(name, v)] := by
  induction members with
  | nil => rfl
  | cons head rest ih =>
    obtain ⟨n, w⟩ := head
    have hn : n < name := h (n, w) List.mem_cons_self
    have hne : ¬name = n := fun he => String.lt_irrefl n (he ▸ hn)
    rw [Json.insertMember, if_neg hne, if_neg (String.lt_asymm hn),
      ih fun m hm => h m (List.mem_cons_of_mem _ hm)]
    rfl

theorem sortedMembers_of_arranged {members into : List (String × Json)} (h : Arranged members)
    (hinto : ∀ a ∈ into, ∀ b ∈ members, a.1 < b.1) :
    sortedMembers members into = into ++ members := by
  induction members generalizing into with
  | nil => simp [sortedMembers]
  | cons head rest ih =>
    obtain ⟨n, w⟩ := head
    have hasc := List.pairwise_cons.1 h.ascending
    have hw : w.sorted = w := h.values (n, w) List.mem_cons_self
    rw [sortedMembers, hw,
      insertMember_of_forall_lt fun m hm => hinto m hm (n, w) List.mem_cons_self]
    rw [ih ⟨hasc.2, fun m hm => h.values m (List.mem_cons_of_mem _ hm)⟩]
    · simp
    · intro a ha b hb
      rcases List.mem_append.1 ha with ha | ha
      · exact hinto a ha b (List.mem_cons_of_mem _ hb)
      · obtain rfl := List.mem_singleton.1 ha
        exact hasc.1 b hb

mutual

/-- Sorting a sorted value leaves it alone. -/
theorem sorted_sorted : (v : Json) → v.sorted.sorted = v.sorted
  | .null | .bool _ | .number _ | .text _ => rfl
  | .array elements => by
    rw [sorted, sorted, sortedElements_sortedElements elements]
  | .object members => by
    have h := arranged_sortedMembers members [] ⟨List.Pairwise.nil, by simp⟩
    rw [sorted, sorted, sortedMembers_of_arranged h (by simp)]
    rfl

/-- Sorting sorted values leaves them alone. -/
theorem sortedElements_sortedElements :
    (vs : List Json) → sortedElements (sortedElements vs) = sortedElements vs
  | [] => rfl
  | v :: rest => by
    rw [sortedElements, sortedElements, sorted_sorted v, sortedElements_sortedElements rest]

/-- Sorted members are arranged. -/
theorem arranged_sortedMembers : (members into : List (String × Json)) →
    Arranged into → Arranged (sortedMembers members into)
  | [], _, h => h
  | (_, v) :: rest, _, h => by
    rw [sortedMembers]
    exact arranged_sortedMembers rest _ (h.insertMember (sorted_sorted v))

end

end Json

/-- A position on the user's screen: a JSON value whose members are in order. -/
structure Position where
  /-- The value. -/
  value : Json
  /-- Sorting leaves the value alone. -/
  sorted : value.sorted = value

namespace Position

/-- The position given by a value, its members put in order. -/
def ofJson (v : Json) : Position := ⟨v.sorted, v.sorted_sorted⟩

/-- No position. -/
def none : Position := ⟨.null, rfl⟩

/-- Whether two positions are the same place. -/
def same (p q : Position) : Bool := p.value.same q.value

end Position

end VisualQuery
