import QueryGateway.Text.Blank

/-! Blanks at the ends of a text. -/
namespace QueryGateway.Text

theorem trimChars_append_blank {cs : List Char} {c : Char} (h : isBlank c = true) :
    trimChars (cs ++ [c]) = trimChars cs := by
  rw [trimChars, trimChars, List.dropWhile_append]
  split
  · rename_i nothing
    rw [List.isEmpty_iff] at nothing
    simp [nothing, h]
  · rw [List.reverse_concat, List.dropWhile_cons_of_pos h]

theorem trimChars_append_blanks (cs : List Char) {blanks : List Char}
    (h : ∀ c ∈ blanks, isBlank c = true) : trimChars (cs ++ blanks) = trimChars cs := by
  induction blanks generalizing cs with
  | nil => rw [List.append_nil]
  | cons c blanks ih =>
    obtain ⟨first, others⟩ := List.forall_mem_cons.mp h
    rw [List.append_cons, ih _ others, trimChars_append_blank first]

theorem trimChars_blanks_append {blanks : List Char} (h : ∀ c ∈ blanks, isBlank c = true)
    (cs : List Char) : trimChars (blanks ++ cs) = trimChars cs := by
  rw [trimChars, trimChars, List.dropWhile_append_of_pos h]

theorem dropWhile_isBlank_of_filled {cs : List Char} (h : ∀ c ∈ cs, isBlank c = false) :
    cs.dropWhile isBlank = cs := by
  cases cs with
  | nil => rfl
  | cons c cs =>
    have first : ¬ isBlank c = true := by
      rw [h c List.mem_cons_self]
      exact Bool.false_ne_true
    exact List.dropWhile_cons_of_neg first

/-- Blanks around a text that has none itself are all that is taken from it. -/
theorem trimChars_around {cs before behind : List Char} (filled : ∀ c ∈ cs, isBlank c = false)
    (hb : ∀ c ∈ before, isBlank c = true) (ha : ∀ c ∈ behind, isBlank c = true) :
    trimChars (before ++ cs ++ behind) = cs := by
  have turned : ∀ c ∈ cs.reverse, isBlank c = false := fun c hc => filled c (List.mem_reverse.mp hc)
  rw [trimChars_append_blanks _ ha, trimChars_blanks_append hb, trimChars,
    dropWhile_isBlank_of_filled filled, dropWhile_isBlank_of_filled turned, List.reverse_reverse]

end QueryGateway.Text
