import VisualQuery.Proofs.Json.ReadBack
import VisualQuery.Proofs.Keyed

/-!
# Written records are read back

A record is written as an object whose members are its fields, in their order. `Fills` says that the
members hold what the fields make of a blank record: it has one constructor for a field, which asks
that the reader of the field undoes the writing of its member, and hands on what has been read so
far. With the names of the fields all different, the reader finds each field by the name of its
member, none comes twice, and none that is required is missing (`ReadsBack.record`).
-/

namespace VisualQuery.Json.Reader

variable {α σ : Type}

/-- The members of an object, one for each field, make one record of another. -/
inductive Fills (depth : Nat) : List (RecordField σ) → List (String × Json) → σ → σ → Prop where
  /-- There is no field. -/
  | nil (r : σ) : Fills depth [] [] r r
  /-- The first member is that of the first field, and so on. -/
  | cons {f : RecordField σ} {fields : List (RecordField σ)} {v : Json} {ms : List (String × Json)}
      {r r₁ r₂ : σ} (head : ReadsBack (f.read depth r) v r₁) (tail : Fills depth fields ms r₁ r₂) :
      Fills depth (f :: fields) ((f.name, v) :: ms) r r₂

theorem Fills.flat {fields : List (RecordField σ)} {ms : List (String × Json)} {name : String}
    {required : Bool} {reader : Reader α} {set : α → σ → σ} {depth : Nat} {v : Json} {a : α}
    {r r' : σ} (h : ReadsBack reader v a) (tail : Fills depth fields ms (set a r) r') :
    Fills depth (.flat name required reader set :: fields) ((name, v) :: ms) r r' :=
  .cons (h.map fun a => set a r) tail

theorem Fills.nested {fields : List (RecordField σ)} {ms : List (String × Json)} {name : String}
    {required : Bool} {reader : Nat → Reader α} {set : α → σ → σ} {depth : Nat} {v : Json} {a : α}
    {r r' : σ} (h : ReadsBack (reader depth) v a) (tail : Fills depth fields ms (set a r) r') :
    Fills depth (.nested name required reader set :: fields) ((name, v) :: ms) r r' :=
  .cons (h.map fun a => set a r) tail

theorem takes_member {fields : List (RecordField σ)} {f : RecordField σ} {depth : Nat} {v : Json}
    {r r' : σ} {seen : List String} (hfind : fields.find? (·.name = f.name) = some f)
    (hseen : f.name ∉ seen) (hread : ReadsBack (f.read depth r) v r') :
    Takes (member fields depth) (f.name, v) ⟨r, seen⟩ ⟨r', f.name :: seen⟩ := by
  intro level rest hrest
  unfold member
  simp only [hfind, if_neg hseen]
  exact colon_bind hread _ level hrest

/-- Going through the members reads one field after the other, and remembers their names. -/
theorem folds_member {all fields : List (RecordField σ)} {depth : Nat}
    {ms : List (String × Json)} {r r' : σ} (h : Fills depth fields ms r r')
    (hall : (all.map (·.name)).Nodup) (hsub : fields ⊆ all) (hfields : (fields.map (·.name)).Nodup)
    {seen : List String} (hseen : ∀ f ∈ fields, f.name ∉ seen) :
    Folds (member all depth) ms ⟨r, seen⟩ ⟨r', (fields.map (·.name)).reverse ++ seen⟩ := by
  induction h generalizing seen with
  | nil r => exact .nil _
  | @cons f fields v ms r r₁ r₂ hread _ ih =>
    rw [List.map_cons, List.nodup_cons] at hfields
    -- no other field has the name, so the member goes to this one
    have hfind : all.find? (·.name = f.name) = some f :=
      (Keyed.find?_eq_some_iff hall).mpr ⟨hsub List.mem_cons_self, rfl⟩
    have hnext : ∀ g ∈ fields, g.name ∉ f.name :: seen := by
      intro g hg hmem
      rcases List.mem_cons.1 hmem with heq | hmem
      · exact hfields.1 (heq ▸ List.mem_map_of_mem hg)
      · exact hseen g (List.mem_cons_of_mem f hg) hmem
    have hrest := ih (fun g hg => hsub (List.mem_cons_of_mem f hg)) hfields.2 hnext
    rw [List.map_cons, List.reverse_cons, List.append_assoc]
    exact .cons (takes_member hfind (hseen f List.mem_cons_self) hread) hrest

/-- **A record is read back if each of its fields is.** -/
theorem ReadsBack.record {fields : List (RecordField σ)} {depth : Nat}
    {ms : List (String × Json)} {blank r : σ} (hnodup : (fields.map (·.name)).Nodup)
    (h : Fills depth fields ms blank r) :
    ReadsBack (record fields blank (depth + 1)) (.object ms) r := by
  have hunseen : ∀ f ∈ fields, f.name ∉ ([] : List String) := fun _ _ => List.not_mem_nil
  have hfolds := folds_member h hnodup (List.Subset.refl fields) hnodup hunseen
  -- every field was seen, the required ones among them
  have hcomplete : ∀ cs, complete fields ⟨r, (fields.map (·.name)).reverse ++ []⟩ cs =
      .ok (r, cs) := by
    intro cs
    have hall : fields.all (fun f =>
        !f.required || ((fields.map RecordField.name).reverse ++ []).contains f.name) = true := by
      refine List.all_eq_true.mpr fun f hf => ?_
      rw [Bool.or_eq_true, List.contains_iff_mem, List.append_nil, List.mem_reverse]
      exact .inr (List.mem_map_of_mem hf)
    unfold complete
    rw [if_pos hall]
    rfl
  unfold Reader.record
  refine .of_object rfl fun level spaces rest hspaces => ?_
  rw [bind_ok (foldMembers_indentedMembers hfolds level hspaces rest), bind_ok (hcomplete _),
    bind_ok (endObject_cons rest)]
  rfl

end VisualQuery.Json.Reader
