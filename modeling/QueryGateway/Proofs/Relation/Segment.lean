import QueryGateway.Policy

/-! The segments of names that the policy looks at.

The policy looks at what stands behind the last dot of a name and at what stands before it.
So text with a dot behind it, put in front of a name, plays a part only if the name has no
dot: its end is then the schema (`lastSegments_behind`). -/
namespace QueryGateway

/-! ### Splitting -/

theorem splitDot_of_dotless {cs : List Char} (h : '.' ∉ cs) : splitDot cs = (cs, none) := by
  induction cs with
  | nil => rfl
  | cons c cs ih =>
    obtain ⟨other, h⟩ := not_or.mp (mt List.mem_cons.mpr h)
    rw [splitDot, ih h]
    exact fun same => other same.symm

theorem splitDot_append (cs ds : List Char) :
    splitDot (cs ++ '.' :: ds) =
      ((splitDot cs).1, some (((splitDot cs).2.map (· ++ '.' :: ds)).getD ds)) := by
  induction cs with
  | nil => rfl
  | cons c cs ih =>
    by_cases dot : c = '.'
    · subst dot
      rfl
    · rw [List.cons_append, splitDot, splitDot, ih]
      · exact dot
      · exact dot

theorem splitDot_of_dot {cs : List Char} (h : '.' ∈ cs) :
    ∃ first rest, splitDot cs = (first, some rest) := by
  obtain ⟨before, after, rfl⟩ := List.append_of_mem h
  exact ⟨_, _, splitDot_append before after⟩

/-- What the last segments of a name are with text and a dot in front of it: of a name with
a dot its own; one without becomes the table in the schema at the end of the text. -/
theorem lastSegments_behind (pre name : List Char) :
    lastSegments (pre ++ '.' :: name) =
      if '.' ∈ name then lastSegments name else (name, some (lastSegments pre).1) := by
  have turned : (pre ++ '.' :: name).reverse = name.reverse ++ '.' :: pre.reverse := by simp
  rw [lastSegments, turned, splitDot_append]
  by_cases dot : '.' ∈ name
  · obtain ⟨table, rest, split⟩ := splitDot_of_dot (List.mem_reverse.mpr dot)
    rw [if_pos dot, lastSegments, split]
    simp [splitDot_append]
  · have dotless : '.' ∉ name.reverse := mt List.mem_reverse.mp dot
    rw [if_neg dot, splitDot_of_dotless dotless]
    simp [lastSegments]

theorem lastSegments_of_dotless {name : List Char} (h : '.' ∉ name) :
    lastSegments name = (name, none) := by
  have dotless : '.' ∉ name.reverse := mt List.mem_reverse.mp h
  rw [lastSegments, splitDot_of_dotless dotless]
  simp

/-! ### Letter case -/

theorem toList_toLower (s : String) : s.toLower.toList = s.toList.map Char.toLower :=
  String.toList_map ..

theorem toLower_eq_dot {c : Char} : c.toLower = '.' ↔ c = '.' := by
  constructor
  · intro same
    replace same : (if _ : c.val ≥ 65 ∧ c.val ≤ 90 then _ else _) = '.' := same
    split at same
    · rename_i upper
      have value : c.val + 32 = 46 := congrArg Char.val same
      have := congrArg UInt32.toNat value
      have := UInt32.le_iff_toNat_le.mp upper.1
      have := UInt32.le_iff_toNat_le.mp upper.2
      simp at *
      omega
    · exact same
  · rintro rfl
    rfl

/-- Letter case has no part in where the dots are. -/
theorem dot_mem_toLower {s : String} : '.' ∈ s.toLower.toList ↔ '.' ∈ s.toList := by
  simp [toList_toLower, toLower_eq_dot]

/-! ### Forbidden relations -/

namespace Policy

variable (p : Policy) {pre name : String}

theorem toLower_behind (pre name : String) : (pre ++ "." ++ name).toLower.toList =
    pre.toLower.toList ++ '.' :: name.toLower.toList := by
  simp [toList_toLower]

/-- What stands in front of a name with a dot plays no part. -/
theorem forbids_behind (dot : '.' ∈ name.toList) :
    p.forbids (pre ++ "." ++ name) = p.forbids name := by
  rw [forbids, toLower_behind, lastSegments_behind, if_pos (dot_mem_toLower.mpr dot)]
  rfl

/-- A table in a schema is forbidden with either of them. -/
theorem forbids_in_schema (schema : '.' ∉ pre.toList) (table : '.' ∉ name.toList) :
    p.forbids (pre ++ "." ++ name) = true ↔
      (∃ t ∈ p.tables, t.toLower = name.toLower) ∨ ∃ s ∈ p.schemas, s.toLower = pre.toLower := by
  have hs : '.' ∉ pre.toLower.toList := mt dot_mem_toLower.mp schema
  have ht : '.' ∉ name.toLower.toList := mt dot_mem_toLower.mp table
  rw [forbids, toLower_behind, lastSegments_behind, if_neg ht, lastSegments_of_dotless hs]
  simp [String.toList_inj]

end Policy

end QueryGateway
