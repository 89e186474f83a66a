import QueryGateway.Proofs.Json.Extension

/-! Objects as they are read.

Members may stand in a text in any order, and a key as often as one likes: of equal keys the last
is the member, and the members are in order (`readText_object`). The text of any members is read as
the object that they make up (`readText_renderMembers`). -/
namespace QueryGateway.Json

/-- An object that is read has the members that are written in the text, in order and each key
once. -/
theorem readText_object {cs : List Char} {ms : Members} (h : readText cs = some (.object ms)) :
    ∃ written, readObjectText cs = some written ∧ ms = Members.ofList written := by
  unfold readText at h
  split at h
  case h_2 => cases h
  case h_1 v rest read =>
    split at h
    case isFalse => cases h
    case isTrue ends =>
      obtain rfl := Option.some.inj h
      rw [readValue.eq_def, nestingLimit] at read
      dsimp only at read
      split at read
      -- a value that does not begin with a brace is no object
      case h_6 =>
        split at read
        · cases read
        · obtain ⟨_, _, same⟩ := Option.map_eq_some_iff.mp read
          cases same
      case h_7 inside starts =>
        rw [readObjectText, starts]
        split at read
        · rename_i closed
          cases read
          simp only [closed]
          exact ⟨[], if_pos ends, rfl⟩
        · rename_i other
          obtain ⟨⟨written, behind⟩, members, same⟩ := Option.map_eq_some_iff.mp read
          cases same
          simp only [members, nestingLimit]
          exact ⟨written, if_pos ends, rfl⟩
      all_goals
        obtain ⟨_, _, same⟩ := Option.map_eq_some_iff.mp read
        cases same

theorem sorted_of_readText {cs : List Char} {ms : Members} (h : readText cs = some (.object ms)) :
    ms.Sorted := by
  obtain ⟨written, -, rfl⟩ := readText_object h
  exact Members.sorted_ofList written

section Rendered

variable {ms : List (String × Json)} (regular : RegularMembers ms)

include regular

/-- The text of members is read as the object that they make up. -/
theorem readText_renderMembers : readText ('\x7b' :: renderMembers ms) =
    if depthMembers ms < nestingLimit then some (ofMembers ms) else none := by
  have read := readValue_renderMembers (readBackMembers ms regular (nestingLimit - 1)) []
  rw [List.append_nil] at read
  have value : readValue nestingLimit ('\x7b' :: renderMembers ms) =
      if depthMembers ms ≤ nestingLimit - 1 then some (ofMembers ms, []) else none := read
  have fits : depthMembers ms ≤ nestingLimit - 1 ↔ depthMembers ms < nestingLimit :=
    Nat.le_sub_one_iff_lt (by decide)
  simp only [fits] at value
  rw [readText, value]
  by_cases shallow : depthMembers ms < nestingLimit
  · rw [if_pos shallow, if_pos shallow]
    rfl
  · rw [if_neg shallow, if_neg shallow]

/-- The text of members is read as these members, in their order. -/
theorem readObjectText_renderMembers : readObjectText ('\x7b' :: renderMembers ms) =
    if depthMembers ms < nestingLimit then some ms else none := by
  cases ms with
  | nil => rfl
  | cons m ms =>
    obtain ⟨cs, hc⟩ := exists_renderMembers m ms
    have length := length_le_renderMembers (m :: ms)
    have read := readMembers_renderMembers (('"' :: cs).length + 1) []
      (readBackMembers _ regular (nestingLimit - 1)) (List.cons_ne_nil m ms)
      (Nat.le_succ_of_le (hc ▸ length))
    have fits : depthMembers (m :: ms) ≤ nestingLimit - 1 ↔ depthMembers (m :: ms) < nestingLimit :=
      Nat.le_sub_one_iff_lt (by decide)
    simp only [List.append_nil, hc, fits] at read
    rw [hc, readObjectText, skipGaps_cons (rfl : isGap '\x7b' = false)]
    simp only [skipGaps_cons (rfl : isGap '"' = false)]
    rw [read]
    by_cases shallow : depthMembers (m :: ms) < nestingLimit
    · rw [if_pos shallow, if_pos shallow]
      rfl
    · rw [if_neg shallow, if_neg shallow]
      rfl

end Rendered

end QueryGateway.Json
