import QueryGateway.Json.Basic

/-! The members of an object after one was set. -/
namespace QueryGateway.Json.Members

theorem get?_nil (key : String) : get? [] key = none := rfl

theorem get?_cons (key other : String) (value : Json) (ms : Members) :
    get? ((key, value) :: ms) other = if other = key then some value else ms.get? other := by
  rw [get?, List.lookup_cons]
  split
  · rw [if_pos (beq_iff_eq.mp ‹_›)]
  · rw [if_neg (beq_eq_false_iff_ne.mp ‹_›)]
    rfl

theorem get?_insert (key other : String) (value : Json) (ms : Members) :
    (ms.insert key value).get? other = if other = key then some value else ms.get? other := by
  induction ms with
  | nil => rw [insert, get?_cons]
  | cons m rest ih =>
    obtain ⟨k, v⟩ := m
    rw [insert]
    split
    · subst key
      rw [get?_cons, get?_cons]
      split <;> rfl
    · rename_i different
      split
      · rw [get?_cons]
      · rw [get?_cons, get?_cons, ih]
        by_cases hk : other = k
        · rw [if_pos hk, if_pos hk, if_neg fun h => different (h.symm.trans hk)]
        · rw [if_neg hk, if_neg hk]

end QueryGateway.Json.Members
