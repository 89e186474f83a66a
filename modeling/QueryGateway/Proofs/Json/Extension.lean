import QueryGateway.Proofs.Json.RoundTrip

/-! Objects that were put together.

Members that are set behind others win over them, and each key is still there once, in order. Two
objects in order are the same if every key has the same value in both (`Sorted.ext`). -/
namespace QueryGateway.Json

namespace Members

/-! ### What a key has -/

theorem extend_append (ms : Members) (others more : List (String × Json)) :
    ms.extend (others ++ more) = (ms.extend others).extend more :=
  List.foldl_append ..

/-- The last value of a key among those that were set, else the one that it had. -/
theorem get?_extend (ms : Members) (others : List (String × Json)) (key : String) :
    (ms.extend others).get? key = (others.reverse.lookup key).or (ms.get? key) := by
  induction others generalizing ms with
  | nil => rfl
  | cons m rest ih =>
    obtain ⟨k, v⟩ := m
    have first : ms.extend ((k, v) :: rest) = (ms.insert k v).extend rest := rfl
    rw [first, ih, get?_insert, List.reverse_cons, List.lookup_append, Option.or_assoc]
    congr 1
    rw [List.lookup_cons, List.lookup_nil]
    by_cases hk : key = k
    · rw [if_pos hk, beq_iff_eq.mpr hk]
      rfl
    · rw [if_neg hk, beq_eq_false_iff_ne.mpr hk]
      rfl

/-- A member that may be missing is set if it is there. -/
theorem get?_extend_toList (ms : Members) (key other : String) (value : Option Json) :
    (ms.extend (value.map fun v => (key, v)).toList).get? other =
      if other = key then value.or (ms.get? other) else ms.get? other := by
  cases value with
  | none =>
    show ms.get? other = _
    split <;> rfl
  | some v => exact get?_insert key other v ms

/-- The members that are there of fields that may be missing. -/
def present (fields : List (String × Option Json)) : List (String × Json) :=
  fields.flatMap fun (key, value) => (value.map fun v => (key, v)).toList

/-- Fields with names of their own are found under them. -/
theorem get?_extend_present {fields : List (String × Option Json)}
    (distinct : (fields.map Prod.fst).Nodup) (ms : Members) (key : String) :
    (ms.extend (present fields)).get? key = (fields.lookup key).join.or (ms.get? key) := by
  induction fields generalizing ms with
  | nil => rfl
  | cons field rest ih =>
    obtain ⟨k, v⟩ := field
    obtain ⟨fresh, distinct⟩ := List.nodup_cons.mp distinct
    rw [present, List.flatMap_cons, extend_append]
    refine (ih distinct _).trans ?_
    rw [get?_extend_toList, List.lookup_cons]
    by_cases hk : key = k
    · have absent : rest.lookup k = none := by
        refine List.lookup_eq_none_iff.mpr fun m hm => bne_iff_ne.mpr fun same => fresh ?_
        exact List.mem_map.mpr ⟨m, hm, same.symm⟩
      rw [hk, absent, if_pos rfl, beq_self_eq_true]
      rfl
    · rw [if_neg hk, beq_eq_false_iff_ne.mpr hk]

theorem get?_without (keys : List String) (ms : Members) (key : String) :
    (ms.without keys).get? key = if key ∈ keys then none else ms.get? key := by
  induction ms with
  | nil => exact (ite_self _).symm
  | cons m rest ih =>
    obtain ⟨k, v⟩ := m
    rw [get?_cons, without, List.filter_cons]
    by_cases hk : k ∈ keys
    · rw [if_neg (by simpa using hk)]
      refine ih.trans ?_
      by_cases same : key = k
      · rw [if_pos (same ▸ hk), if_pos (same ▸ hk)]
      · rw [if_neg same]
    · rw [if_pos (by simpa using hk), get?_cons]
      by_cases same : key = k
      · rw [if_pos same, if_pos same, if_neg (same ▸ hk)]
      · rw [if_neg same, if_neg same]
        exact ih

theorem mem_present {m : String × Json} {fields : List (String × Option Json)}
    (h : m ∈ present fields) : (m.1, some m.2) ∈ fields := by
  obtain ⟨⟨key, value⟩, hf, h⟩ := List.mem_flatMap.mp h
  obtain ⟨v, there, rfl⟩ := Option.map_eq_some_iff.mp (Option.mem_toList.mp h)
  exact there ▸ hf

/-! ### Order -/

theorem mem_insert {m : String × Json} {key : String} {value : Json} {ms : Members}
    (h : m ∈ ms.insert key value) : m = (key, value) ∨ m ∈ ms := by
  induction ms with
  | nil => exact .inl (List.mem_singleton.mp h)
  | cons n rest ih =>
    obtain ⟨k, v⟩ := n
    rw [insert] at h
    split at h
    · exact (List.mem_cons.mp h).imp_right (List.mem_cons_of_mem _)
    · split at h
      · exact List.mem_cons.mp h
      · rcases List.mem_cons.mp h with rfl | h
        · exact .inr List.mem_cons_self
        · exact (ih h).imp_right (List.mem_cons_of_mem _)

theorem mem_extend {m : String × Json} {ms : Members} {others : List (String × Json)}
    (h : m ∈ ms.extend others) : m ∈ ms ∨ m ∈ others := by
  induction others generalizing ms with
  | nil => exact .inl h
  | cons n rest ih =>
    rcases ih h with h | h
    · rcases mem_insert h with rfl | h
      · exact .inr List.mem_cons_self
      · exact .inl h
    · exact .inr (List.mem_cons_of_mem _ h)

theorem mem_ofList {m : String × Json} {others : List (String × Json)} (h : m ∈ ofList others) :
    m ∈ others :=
  (mem_extend h).resolve_left (List.not_mem_nil)

theorem Sorted.insert {ms : Members} (h : ms.Sorted) (key : String) (value : Json) :
    (ms.insert key value).Sorted := by
  induction ms with
  | nil => exact List.pairwise_singleton _ _
  | cons m rest ih =>
    obtain ⟨k, v⟩ := m
    obtain ⟨before, sorted⟩ := List.pairwise_cons.mp h
    rw [Members.insert]
    split
    · subst key
      exact List.pairwise_cons.mpr ⟨before, sorted⟩
    · rename_i other
      split
      · rename_i early
        refine List.pairwise_cons.mpr ⟨fun m hm => ?_, h⟩
        rcases List.mem_cons.mp hm with rfl | hm
        · exact early
        · exact String.lt_trans early (before m hm)
      · rename_i late
        refine List.pairwise_cons.mpr ⟨fun m hm => ?_, ih sorted⟩
        rcases mem_insert hm with rfl | hm
        · exact String.not_le.mp fun le => other (String.le_antisymm le (String.not_lt.mp late))
        · exact before m hm

theorem Sorted.extend {ms : Members} (h : ms.Sorted) (others : List (String × Json)) :
    (ms.extend others).Sorted := by
  induction others generalizing ms with
  | nil => exact h
  | cons m rest ih => exact ih (h.insert m.1 m.2)

theorem sorted_ofList (others : List (String × Json)) : (ofList others).Sorted :=
  have empty : Sorted [] := .nil
  empty.extend others

theorem Sorted.without {ms : Members} (h : ms.Sorted) (keys : List String) :
    (ms.without keys).Sorted :=
  h.filter _

theorem get?_eq_none_of_before {key : String} {ms : Members} (h : ∀ m ∈ ms, key < m.1) :
    ms.get? key = none := by
  refine List.lookup_eq_none_iff.mpr fun m hm => ?_
  exact bne_iff_ne.mpr (String.ne_of_lt (h m hm))

/-- In order, the last value of a key is its only one. -/
theorem Sorted.lookup_reverse {ms : Members} (h : ms.Sorted) (key : String) :
    ms.reverse.lookup key = ms.get? key := by
  induction ms with
  | nil => rfl
  | cons m rest ih =>
    obtain ⟨k, v⟩ := m
    obtain ⟨before, sorted⟩ := List.pairwise_cons.mp h
    rw [List.reverse_cons, List.lookup_append, ih sorted, get?_cons]
    by_cases hk : key = k
    · subst key
      rw [get?_eq_none_of_before before, if_pos rfl, List.lookup_cons, beq_self_eq_true]
      rfl
    · rw [if_neg hk, List.lookup_cons, beq_eq_false_iff_ne.mpr hk]
      exact Option.or_none

theorem Sorted.ext {ms ns : Members} (hm : ms.Sorted) (hn : ns.Sorted)
    (same : ∀ key, ms.get? key = ns.get? key) : ms = ns := by
  induction ms generalizing ns with
  | nil =>
    cases ns with
    | nil => rfl
    | cons n ns =>
      have first := same n.1
      rw [get?_nil, get?_cons, if_pos rfl] at first
      cases first
  | cons m ms ih =>
    cases ns with
    | nil =>
      have first := same m.1
      rw [get?_nil, get?_cons, if_pos rfl] at first
      cases first
    | cons n ns =>
      obtain ⟨k, v⟩ := m
      obtain ⟨l, w⟩ := n
      obtain ⟨beforeM, sortedM⟩ := List.pairwise_cons.mp hm
      obtain ⟨beforeN, sortedN⟩ := List.pairwise_cons.mp hn
      -- a first key that is smaller than the other one is in one object only
      have absent : ∀ {key other : String} {value : Json} {rest : Members},
          (∀ m ∈ rest, other < m.1) → key < other →
            get? ((other, value) :: rest) key = none := by
        intro key other value rest before early
        refine get?_eq_none_of_before fun m hm => ?_
        rcases List.mem_cons.mp hm with rfl | hm
        · exact early
        · exact String.lt_trans early (before m hm)
      have keys : k = l := by
        refine String.le_antisymm (String.not_lt.mp fun late => ?_) (String.not_lt.mp fun early => ?_)
        · have first := same l
          rw [absent beforeM late, get?_cons, if_pos rfl] at first
          cases first
        · have first := same k
          rw [absent beforeN early, get?_cons, if_pos rfl] at first
          cases first
      subst l
      have values : v = w := by
        have first := same k
        rw [get?_cons, get?_cons, if_pos rfl, if_pos rfl] at first
        exact Option.some.inj first
      rw [values, ih sortedM sortedN fun key => ?_]
      by_cases hk : key = k
      · rw [hk, get?_eq_none_of_before beforeM, get?_eq_none_of_before beforeN]
      · have other := same key
        rwa [get?_cons, get?_cons, if_neg hk, if_neg hk] at other

end Members

theorem regularMembers_iff {ms : Members} : RegularMembers ms ↔ ∀ m ∈ ms, m.2.Regular := by
  induction ms with
  | nil => exact iff_of_true trivial (List.forall_mem_nil _)
  | cons m rest ih =>
    rw [List.forall_mem_cons, ← ih]
    exact Iff.rfl

end QueryGateway.Json
