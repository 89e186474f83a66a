import Mathlib.Data.Set.Card
import QueryGateway.Proofs.Relation.Set

/-! A relation set as an ordered map from names to references.

What a set holds of the references that were inserted into it (`Collects`) leaves nothing open:
only one set holds just that (`Collects.unique`). A name is looked up as it is listed, and what
is written is a part of the listing. Which names there are and which of them are written does
not depend on the order of the inserts (`inserts_make_ordered_map`). -/
namespace QueryGateway

theorem Role.eq_of_write_iff {a b : Role} (h : a = .write ↔ b = .write) : a = b := by
  cases a <;> cases b <;> simp at h ⊢

namespace RelationSet

/-! ### Listing and lookup -/

section Listing

variable {set : RelationSet} {n : String} {s : Reference}

/-- A name is looked up as it is listed. -/
theorem get?_eq_some_iff (h : set.names.Nodup) :
    set.get? n = some s ↔ s ∈ set.references ∧ s.name = n := by
  constructor
  · intro found
    exact ⟨List.mem_of_find?_eq_some found, by simpa using List.find?_some found⟩
  · rintro ⟨listed, rfl⟩
    obtain ⟨before, after, split⟩ := List.append_of_mem listed
    refine List.find?_eq_some_iff_append.mpr ⟨by simp, before, after, split, fun t ht => ?_⟩
    rw [names, split, List.map_append, List.map_cons] at h
    have apart : t.name ≠ s.name :=
      (List.nodup_append.mp h).2.2 _ (List.mem_map_of_mem ht) _ (List.mem_cons_self ..)
    simpa using apart

theorem mem_names_iff : n ∈ set.names ↔ ∃ s ∈ set.references, s.name = n := List.mem_map

end Listing

section Inserted

variable {rs rs' : List Reference} {set set' : RelationSet} {n : String}

/-! ### One set only -/

theorem eq_of_cons_eq_append {r r' : Reference} {after between after' : List Reference}
    (same : r :: after = between ++ r' :: after') (h : ∀ x ∈ between, x.name ≠ r.name) :
    r = r' := by
  cases between with
  | nil => exact (List.cons.inj same).1
  | cons x between =>
    have first : r = x := (List.cons.inj same).1
    exact absurd (congrArg Reference.name first.symm) (h x (List.mem_cons_self ..))

theorem Earlier.antisymm {m n : String} (h : Earlier rs m n) (h' : Earlier rs n m) : m = n := by
  obtain ⟨before, r, after, rfl, rfl, hbefore⟩ := h
  obtain ⟨before', r', after', same, rfl, hbefore'⟩ := h'
  -- Neither of the two references stands before the other one.
  rcases List.append_eq_append_iff.mp same with ⟨between, rfl, rest⟩ | ⟨between, rfl, rest⟩
  · have here := eq_of_cons_eq_append rest fun x hx => hbefore' x (List.mem_append_right _ hx)
    rw [here]
  · have here := eq_of_cons_eq_append rest fun x hx => hbefore x (List.mem_append_right _ hx)
    rw [here]

/-- A reference in a set is told by its name. -/
theorem Collects.eq_of_name_eq (h : Collects rs set) (h' : Collects rs set') {s t : Reference}
    (hs : s ∈ set.references) (ht : t ∈ set'.references) (same : s.name = t.name) : s = t := by
  have role : s.role = t.role := by
    apply Role.eq_of_write_iff
    rw [h.role s hs, h'.role t ht, same]
  have place : some s.place = some t.place := by
    rw [← h.place s hs, ← h'.place t ht, same]
  cases s
  cases t
  simp_all

theorem Collects.mem_of_mem (h : Collects rs set) (h' : Collects rs set') {s : Reference}
    (hs : s ∈ set.references) : s ∈ set'.references := by
  have named : s.name ∈ set'.names := by
    rw [h'.mem_names, ← h.mem_names]
    exact List.mem_map_of_mem hs
  obtain ⟨t, ht, same⟩ := mem_names_iff.mp named
  rwa [h.eq_of_name_eq h' hs ht same.symm]

theorem Collects.listed_in_order (h : Collects rs set) :
    set.references.Pairwise fun s t => Earlier rs s.name t.name :=
  List.pairwise_map.mp h.ordered

/-- What a set holds of references is all there is to it. -/
theorem Collects.unique (h : Collects rs set) (h' : Collects rs set') : set = set' := by
  have perm : set.references.Perm set'.references :=
    (List.perm_ext_iff_of_nodup (h.nodup.of_map _) (h'.nodup.of_map _)).mpr fun s =>
      ⟨h.mem_of_mem h', h'.mem_of_mem h⟩
  have same : set.references = set'.references := by
    refine perm.eq_of_pairwise (fun s t hs ht first second => ?_) h.listed_in_order
      h'.listed_in_order
    exact h.eq_of_name_eq h' hs ht (first.antisymm second)
  cases set
  cases set'
  exact congrArg RelationSet.mk same

/-! ### How many names, and which are written -/

theorem Collects.size_eq (h : Collects rs set) :
    set.size = Set.ncard {n | ∃ r ∈ rs, r.name = n} := by
  have same : {n | ∃ r ∈ rs, r.name = n} = (set.names.toFinset : Set String) := by
    ext n
    simp [h.mem_names]
  rw [same, Set.ncard_coe_finset, List.toFinset_card_of_nodup h.nodup, names, List.length_map, size]

theorem Collects.mem_writes_iff (h : Collects rs set) {s : Reference} :
    s ∈ set.writes ↔
      s ∈ set.references ∧ ∃ r ∈ rs, r.name = s.name ∧ r.role = .write := by
  rw [writes, List.mem_filter, decide_eq_true_iff]
  exact and_congr_right (h.role s)

/-! ### Another order -/

/-- The role that references give to a name, if one of them has it. -/
def roleOf? (rs : List Reference) (n : String) : Option Role :=
  if ∃ r ∈ rs, r.name = n ∧ r.role = .write then some .write
  else if ∃ r ∈ rs, r.name = n then some .read
  else none

theorem roleOf?_congr (h : ∀ r, r ∈ rs ↔ r ∈ rs') (n : String) : roleOf? rs n = roleOf? rs' n := by
  simp only [roleOf?, h]

theorem Collects.role_get? (h : Collects rs set) (n : String) :
    (set.get? n).map Reference.role = roleOf? rs n := by
  cases found : set.get? n with
  | none =>
    have unlisted : ¬ ∃ r ∈ rs, r.name = n := by
      rw [← h.mem_names, mem_names_iff]
      simpa [get?] using found
    have unwritten : ¬ ∃ r ∈ rs, r.name = n ∧ r.role = .write :=
      fun ⟨r, hr, hn, _⟩ => unlisted ⟨r, hr, hn⟩
    rw [roleOf?, if_neg unwritten, if_neg unlisted]
    rfl
  | some s =>
    obtain ⟨listed, rfl⟩ := (get?_eq_some_iff h.nodup).mp found
    have named : ∃ r ∈ rs, r.name = s.name :=
      (h.mem_names s.name).mp (List.mem_map_of_mem listed)
    rw [roleOf?, if_pos named, Option.map_some]
    by_cases written : s.role = .write
    · rw [if_pos ((h.role s listed).mp written), written]
    · rw [if_neg fun w => written ((h.role s listed).mpr w)]
      cases role : s.role with
      | read => rfl
      | write => exact absurd role written

end Inserted

/-- **Inserts make an ordered map, in which a write prevails.** The set that references are
inserted into is the only one that lists their names in the order of first mention, each once,
written if it is written anywhere and in the place of its first mention. A name is looked up as
it is listed; there are as many as there are different names; what is written is listed in the
same order. In another order the same references have the same names in the same roles. -/
theorem inserts_make_ordered_map (rs : List Reference) :
    (∀ set, Collects rs set ↔ set = ofList rs) ∧
    (∀ n s, (ofList rs).get? n = some s ↔ s ∈ (ofList rs).references ∧ s.name = n) ∧
    (ofList rs).size = Set.ncard {n | ∃ r ∈ rs, r.name = n} ∧
    (ofList rs).writes.Sublist (ofList rs).references ∧
    (∀ s, s ∈ (ofList rs).writes ↔
      s ∈ (ofList rs).references ∧ ∃ r ∈ rs, r.name = s.name ∧ r.role = .write) ∧
    ∀ rs', rs.Perm rs' →
      (∀ n, n ∈ (ofList rs').names ↔ n ∈ (ofList rs).names) ∧
      ∀ n, ((ofList rs').get? n).map Reference.role = ((ofList rs).get? n).map Reference.role := by
  have collects := collects_ofList rs
  refine ⟨fun set => ⟨fun h => h.unique collects, ?_⟩, ?_, collects.size_eq, List.filter_sublist,
    fun s => collects.mem_writes_iff, fun rs' perm => ?_⟩
  · rintro rfl
    exact collects
  · intro n s
    exact get?_eq_some_iff collects.nodup
  · have collects' := collects_ofList rs'
    constructor
    · intro n
      simp only [collects.mem_names, collects'.mem_names, perm.mem_iff]
    · intro n
      rw [collects.role_get?, collects'.role_get?]
      exact roleOf?_congr (fun r => perm.mem_iff.symm) n

/-- A table that is read, another one, and the first one again, written. -/
def updatedRoads : List Reference :=
  [⟨"roads", .read, .own⟩, ⟨"owners", .read, .subquery⟩, ⟨"roads", .write, .subquery⟩]

/-- The table stays first and is written, in the place of its first mention. In the reverse order
it has the same role, though not the same place. -/
theorem updatedRoads_reversed :
    (ofList updatedRoads).references = [⟨"roads", .write, .own⟩, ⟨"owners", .read, .subquery⟩] ∧
    updatedRoads.Perm updatedRoads.reverse ∧
    ((ofList updatedRoads.reverse).get? "roads").map Reference.role = some .write ∧
    (ofList updatedRoads.reverse).get? "roads" = some ⟨"roads", .write, .subquery⟩ := by
  have perm : updatedRoads.Perm updatedRoads.reverse := updatedRoads.reverse_perm.symm
  obtain ⟨_, _, _, _, _, reordered⟩ := inserts_make_ordered_map updatedRoads
  refine ⟨by decide, perm, ?_, by decide⟩
  rw [(reordered _ perm).2 "roads"]
  decide

end RelationSet

end QueryGateway
