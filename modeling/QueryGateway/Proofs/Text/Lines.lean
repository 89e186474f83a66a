import QueryGateway.Proofs.Text.Blank
import QueryGateway.Text.Lines

/-! Lines without the blanks around them.

A carriage return is blank, so where lines are trimmed their ends are line feeds alone, and
a blank line counts as none (`filled_lines`). -/
namespace QueryGateway.Text

theorem trimChars_dropReturn (cs : List Char) : trimChars (dropReturn cs) = trimChars cs := by
  unfold dropReturn
  split
  · rename_i last
    obtain ⟨before, rfl⟩ := List.getLast?_eq_some_iff.mp last
    rw [List.dropLast_concat, trimChars_append_blank (by decide)]
  · rfl

/-! ### Lines -/

/-- What stands between the line feeds of a text, trimmed, without what is blank. -/
def filledLines (s : String) : List String :=
  ((s.toList.splitOn '\n').map fun line => String.ofList (trimChars line)).filter (!·.isEmpty)

theorem filled_linesFrom (current cs : List Char) :
    ((linesFrom current cs).map trimChars).filter (!·.isEmpty) =
      ((cs.splitOnPPrepend (· == '\n') current).map trimChars).filter (!·.isEmpty) := by
  induction current, cs using linesFrom.induct with
  | case1 current empty =>
    obtain rfl := List.isEmpty_iff.mp empty
    rfl
  | case2 current filled =>
    rw [linesFrom, if_neg filled]
    rfl
  | case3 current rest ih =>
    rw [linesFrom, List.splitOnPPrepend_cons_pos (by rfl), List.map_cons, List.map_cons,
      trimChars_dropReturn, List.filter_cons, List.filter_cons, ih]
    rfl
  | case4 current c rest other ih =>
    have goesOn : (c == '\n') = false := beq_eq_false_iff_ne.mpr other
    rw [List.splitOnPPrepend_cons_neg (p := (· == '\n')) goesOn, ← ih, linesFrom]
    exact other

theorem filled_map_ofList (lines : List (List Char)) :
    (lines.map String.ofList).filter (!·.isEmpty) =
      (lines.filter (!·.isEmpty)).map String.ofList := by
  rw [List.filter_map]
  congr 2
  funext line
  cases line with
  | nil => rfl
  | cons c rest => simp

/-- Lines that are trimmed and not blank are told by line feeds alone. -/
theorem filled_lines (s : String) :
    ((lines s).map trim).filter (!·.isEmpty) = filledLines s := by
  have trimmed : (lines s).map trim = ((linesFrom [] s.toList).map trimChars).map String.ofList := by
    rw [lines, List.map_map, List.map_map]
    refine List.map_congr_left fun line _ => ?_
    show String.ofList (trimChars (String.ofList line).toList) = _
    rw [String.toList_ofList]
    rfl
  rw [trimmed, filled_map_ofList, filled_linesFrom, ← filled_map_ofList, List.map_map]
  rfl

/-- A line feed between two texts keeps their lines apart. -/
theorem filledLines_append (s t : String) :
    filledLines (s ++ "\n" ++ t) = filledLines s ++ filledLines t := by
  have apart : (s ++ "\n" ++ t).toList = s.toList ++ '\n' :: t.toList := by
    rw [String.toList_append, String.toList_append, List.append_assoc]
    rfl
  rw [filledLines, apart, List.splitOn_append_cons_self, List.map_append, List.filter_append]
  rfl

end QueryGateway.Text
