import QueryGateway.Relation.Basic
import Mathlib.Data.List.Nodup

/-! What a relation set holds of the references that it was made of.

`Collects` says it: each name once, in the order of first mention, written if it is written
anywhere, in the place of its first mention. One more reference keeps it (`collects_insert`),
so it holds of every list of references (`collects_ofList`). -/
namespace QueryGateway.RelationSet

/-- A reference to one name stands before every reference to another. -/
def Earlier (rs : List Reference) (m n : String) : Prop :=
  ∃ before r after, rs = before ++ r :: after ∧ r.name = m ∧ ∀ x ∈ before, x.name ≠ n

/-- The set is that of the references. -/
structure Collects (rs : List Reference) (set : RelationSet) : Prop where
  nodup : set.names.Nodup
  mem_names : ∀ n, n ∈ set.names ↔ ∃ r ∈ rs, r.name = n
  ordered : set.names.Pairwise (Earlier rs)
  role : ∀ s ∈ set.references,
    (s.role = .write ↔ ∃ r ∈ rs, r.name = s.name ∧ r.role = .write)
  place : ∀ s ∈ set.references,
    (rs.find? (·.name = s.name)).map Reference.place = some s.place

/-! ### One more reference -/

theorem Earlier.append {rs : List Reference} {m n : String} (h : Earlier rs m n)
    (rs' : List Reference) : Earlier (rs ++ rs') m n := by
  obtain ⟨before, r, after, rfl, hm, hn⟩ := h
  exact ⟨before, r, after ++ rs', by rw [List.append_assoc, List.cons_append], hm, hn⟩

theorem earlier_of_mem {rs : List Reference} {m n : String} (hm : ∃ r ∈ rs, r.name = m)
    (hn : ¬ ∃ r ∈ rs, r.name = n) : Earlier rs m n := by
  obtain ⟨r, hr, rfl⟩ := hm
  obtain ⟨before, after, rfl⟩ := List.append_of_mem hr
  exact ⟨before, r, after, rfl, rfl, fun x hx hxn => hn ⟨x, List.mem_append_left _ hx, hxn⟩⟩

theorem map_name_add (r : Reference) (rs : List Reference) :
    (add r rs).map Reference.name =
      if r.name ∈ rs.map Reference.name then rs.map Reference.name
      else rs.map Reference.name ++ [r.name] := by
  induction rs with
  | nil => rfl
  | cons s rest ih =>
    rw [add]
    by_cases h : s.name = r.name
    · have there : r.name ∈ (s :: rest).map Reference.name :=
        List.mem_map.mpr ⟨s, List.mem_cons_self .., h⟩
      rw [if_pos h, if_pos there]
      split <;> rfl
    · have there : r.name ∈ (s :: rest).map Reference.name ↔ r.name ∈ rest.map Reference.name := by
        rw [List.map_cons, List.mem_cons, or_iff_right fun e => h e.symm]
      rw [if_neg h, List.map_cons, ih]
      by_cases hr : r.name ∈ rest.map Reference.name
      · rw [if_pos hr, if_pos (there.mpr hr)]
        rfl
      · rw [if_neg hr, if_neg fun h => hr (there.mp h)]
        rfl

/-- A name that is there stays where it is; a new one comes last. -/
theorem names_insert (set : RelationSet) (r : Reference) :
    (set.insert r).names =
      if r.name ∈ set.names then set.names else set.names ++ [r.name] :=
  map_name_add r set.references

/-- A reference after one more: it is new, or the one with that name and perhaps written now,
or as it was. -/
theorem mem_add {r t : Reference} {rs : List Reference} (nodup : (rs.map Reference.name).Nodup)
    (h : t ∈ add r rs) :
    (t = r ∧ r.name ∉ rs.map Reference.name) ∨
    (∃ s ∈ rs, s.name = r.name ∧ t = if r.role = .write then { s with role := .write } else s) ∨
    (t ∈ rs ∧ t.name ≠ r.name) := by
  induction rs with
  | nil => exact .inl ⟨List.mem_singleton.mp h, by simp⟩
  | cons s rest ih =>
    obtain ⟨hs, nodup⟩ := List.nodup_cons.mp nodup
    rw [add] at h
    by_cases hname : s.name = r.name
    · rw [if_pos hname] at h
      rcases List.mem_cons.mp h with rfl | h
      · exact .inr (.inl ⟨s, List.mem_cons_self .., hname, rfl⟩)
      · refine .inr (.inr ⟨List.mem_cons_of_mem _ h, fun ht => hs ?_⟩)
        exact List.mem_map.mpr ⟨t, h, ht.trans hname.symm⟩
    · rw [if_neg hname] at h
      rcases List.mem_cons.mp h with rfl | h
      · exact .inr (.inr ⟨List.mem_cons_self .., hname⟩)
      · rcases ih nodup h with ⟨rfl, hr⟩ | ⟨s', hs', he⟩ | ⟨ht, hne⟩
        · exact .inl ⟨rfl, by simpa using ⟨fun e => hname e.symm, by simpa using hr⟩⟩
        · exact .inr (.inl ⟨s', List.mem_cons_of_mem _ hs', he⟩)
        · exact .inr (.inr ⟨List.mem_cons_of_mem _ ht, hne⟩)

variable {rs : List Reference} {set : RelationSet}

theorem collects_empty : Collects [] empty where
  nodup := List.nodup_nil
  mem_names n := by simp [empty, names]
  ordered := .nil
  role := by simp [empty]
  place := by simp [empty]

theorem Collects.names_insert_ordered (h : Collects rs set) (r : Reference) :
    (set.insert r).names.Pairwise (Earlier (rs ++ [r])) := by
  have kept := h.ordered.imp fun h => h.append [r]
  rw [names_insert]
  split
  · exact kept
  · rename_i hr
    refine List.pairwise_append.mpr ⟨kept, List.pairwise_singleton .., fun m hm n hn => ?_⟩
    obtain rfl := List.mem_singleton.mp hn
    rw [h.mem_names] at hm hr
    exact (earlier_of_mem hm hr).append [r]

theorem Collects.role_insert (h : Collects rs set) (r : Reference) {t : Reference}
    (ht : t ∈ (set.insert r).references) :
    t.role = .write ↔ ∃ x ∈ rs ++ [r], x.name = t.name ∧ x.role = .write := by
  have split : (∃ x ∈ rs ++ [r], x.name = t.name ∧ x.role = .write) ↔
      (∃ x ∈ rs, x.name = t.name ∧ x.role = .write) ∨ r.name = t.name ∧ r.role = .write := by
    simp only [List.mem_append, List.mem_singleton, or_and_right, exists_or, exists_eq_left]
  rw [split]
  rcases mem_add h.nodup ht with ⟨rfl, hr⟩ | ⟨s, hs, hname, rfl⟩ | ⟨ht, hne⟩
  · have hnone : ¬ ∃ x ∈ rs, x.name = t.name ∧ x.role = .write := by
      intro written
      obtain ⟨x, hx, hn, _⟩ := written
      exact hr ((h.mem_names t.name).mpr ⟨x, hx, hn⟩)
    simp [hnone]
  · by_cases hw : r.role = .write
    · simp [hw, hname]
    · rw [if_neg hw, h.role s hs]
      simp [hw]
  · rw [h.role t ht]
    simp [hne.symm]

theorem Collects.place_insert (h : Collects rs set) (r : Reference) {t : Reference}
    (ht : t ∈ (set.insert r).references) :
    ((rs ++ [r]).find? (·.name = t.name)).map Reference.place = some t.place := by
  have stays {s : Reference} (hs : s ∈ set.references) :
      ((rs ++ [r]).find? (·.name = s.name)).map Reference.place = some s.place := by
    obtain ⟨x, hx, hplace⟩ := Option.map_eq_some_iff.mp (h.place s hs)
    rw [List.find?_append, hx, Option.some_or, Option.map_some, hplace]
  rcases mem_add h.nodup ht with ⟨rfl, hr⟩ | ⟨s, hs, _, rfl⟩ | ⟨ht, _⟩
  · have hnone : rs.find? (·.name = t.name) = none := by
      refine List.find?_eq_none.mpr fun x hx hn => hr ?_
      exact (h.mem_names t.name).mpr ⟨x, hx, by simpa using hn⟩
    rw [List.find?_append, hnone, Option.none_or]
    simp
  · have := stays hs
    split <;> exact this
  · exact stays ht

theorem collects_insert (h : Collects rs set) (r : Reference) :
    Collects (rs ++ [r]) (set.insert r) where
  nodup := by
    rw [names_insert]
    split
    · exact h.nodup
    · rename_i hr
      rw [← List.concat_eq_append]
      exact h.nodup.concat hr
  mem_names n := by
    have : (∃ x ∈ rs ++ [r], x.name = n) ↔ n ∈ set.names ∨ r.name = n := by
      simp only [h.mem_names, List.mem_append, List.mem_singleton, or_and_right, exists_or,
        exists_eq_left]
    rw [this, names_insert]
    split
    · constructor
      · exact .inl
      · intro known
        rcases known with hn | rfl
        · exact hn
        · assumption
    · rw [List.mem_append, List.mem_singleton, eq_comm]
  ordered := h.names_insert_ordered r
  role _ ht := h.role_insert r ht
  place _ ht := h.place_insert r ht

/-! ### A list of references -/

theorem collects_foldl (h : Collects rs set) (more : List Reference) :
    Collects (rs ++ more) (more.foldl insert set) := by
  induction more generalizing rs set with
  | nil => rwa [List.append_nil]
  | cons r more ih =>
    have := ih (collects_insert h r)
    rwa [List.append_assoc] at this

/-- **A relation set is what it was made of.** -/
theorem collects_ofList (rs : List Reference) : Collects rs (ofList rs) :=
  collects_foldl collects_empty rs

end QueryGateway.RelationSet
