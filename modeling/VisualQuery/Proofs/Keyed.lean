import Mathlib.Data.List.Nodup

/-!
# Lists with keys

Joins, items and containers are kept in lists and looked up by their identities; the two indexes of
a query are lists of entries. As long as no key occurs twice, a look-up finds a member exactly if it
has the key.
-/

namespace VisualQuery.Keyed

variable {α κ β : Type} [DecidableEq κ] {l : List α} {key : α → κ} {k : κ} {a : α}

theorem find?_eq_some (h : l.find? (fun x => key x = k) = some a) : a ∈ l ∧ key a = k :=
  ⟨List.mem_of_find?_eq_some h, by simpa using List.find?_some h⟩

theorem find?_eq_none_iff : l.find? (fun x => key x = k) = none ↔ k ∉ l.map key := by
  rw [List.find?_eq_none]
  simp

/-- A look-up by key finds the member that has the key. -/
theorem find?_eq_some_iff (h : (l.map key).Nodup) :
    l.find? (fun x => key x = k) = some a ↔ a ∈ l ∧ key a = k := by
  refine ⟨find?_eq_some, ?_⟩
  rintro ⟨ha, rfl⟩
  cases hf : l.find? (fun x => key x = key a) with
  | none => exact absurd (List.mem_map_of_mem ha) (find?_eq_none_iff.mp hf)
  | some b =>
    obtain ⟨hb, hkey⟩ := find?_eq_some hf
    rw [List.inj_on_of_nodup_map h hb ha hkey]

/-- A map that holds the members with some keys, in the order of the keys: going through the keys
and looking each one up gives the members. -/
theorem filterMap_find? (h : (l.map key).Nodup) :
    (l.map key).filterMap (fun k => l.find? fun x => key x = k) = l := by
  rw [List.filterMap_map]
  calc l.filterMap ((fun k => l.find? fun x => key x = k) ∘ key)
      = l.filterMap some :=
        List.filterMap_congr fun a ha => (find?_eq_some_iff h).mpr ⟨ha, rfl⟩
    _ = l := List.filterMap_some

/-! ### Entries -/

variable {entries : List (κ × β)} {v : β} {k' : κ}

theorem lookup_cons_of_ne (h : k ≠ k') :
    List.lookup k ((k', v) :: entries) = List.lookup k entries := by
  rw [List.lookup_cons, beq_false_of_ne h]

theorem lookup_eq_none_iff : entries.lookup k = none ↔ k ∉ entries.map Prod.fst := by
  rw [List.lookup_eq_none_iff]
  simp only [bne_iff_ne, List.mem_map, not_exists, not_and]
  exact forall₂_congr fun _ _ => ne_comm

/-- Without any key that is found there are no entries. -/
theorem eq_nil_of_lookup (h : ∀ k, entries.lookup k = none) : entries = [] := by
  cases entries with
  | nil => rfl
  | cons entry rest => exact absurd List.mem_cons_self (lookup_eq_none_iff.mp (h entry.1))

/-- As long as no key has two entries, a look-up finds every entry. -/
theorem lookup_eq_some_iff (h : (entries.map Prod.fst).Nodup) :
    entries.lookup k = some v ↔ (k, v) ∈ entries := by
  induction entries with
  | nil => simp
  | cons entry rest ih =>
    obtain ⟨k₀, v₀⟩ := entry
    rw [List.map_cons, List.nodup_cons] at h
    by_cases hk : k = k₀
    · subst hk
      rw [List.lookup_cons_self, List.mem_cons, Option.some_inj, Prod.mk.injEq]
      constructor
      · rintro rfl
        exact Or.inl ⟨rfl, rfl⟩
      · rintro (⟨-, rfl⟩ | hmem)
        · rfl
        · exact absurd (List.mem_map.mpr ⟨_, hmem, rfl⟩) h.1
    · rw [lookup_cons_of_ne hk, ih h.2, List.mem_cons, Prod.mk.injEq]
      exact ⟨Or.inr, fun hmem => hmem.resolve_left fun heq => hk heq.1⟩

end VisualQuery.Keyed
