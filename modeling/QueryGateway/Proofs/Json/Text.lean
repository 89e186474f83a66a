import QueryGateway.Proofs.Json.RoundTrip

/-! The text of a value as a whole.

It holds no line break, whatever strings and keys the value holds (`newline_notMem_renderChars`),
and it is read back unless it is nested deeper than the reader goes (`readWithin_renderChars`).
A text is nested no deeper than it is long, so a reader that goes as deep as the text is long reads
every one of them (`readWhole_renderChars`). -/
namespace QueryGateway.Json

/-! ### Line breaks -/

theorem newline_notMem_digits (n : Nat) : '\n' ∉ digits n := by
  intro h
  have digit : Char.isDigit '\n' = true := Nat.isDigit_of_mem_toDigits (by decide) (by decide) h
  cases digit

theorem newline_notMem_renderInt (n : Int) : '\n' ∉ renderInt n := by
  cases n with
  | ofNat n => exact newline_notMem_digits n
  | negSucc n => exact List.not_mem_cons_of_ne_of_not_mem (by decide) (newline_notMem_digits _)

theorem newline_notMem_renderExponent (e : Int) : '\n' ∉ renderExponent e := by
  unfold renderExponent
  split
  · exact List.not_mem_cons_of_ne_of_not_mem (by decide) (newline_notMem_renderInt e)
  · exact newline_notMem_renderInt e

theorem newline_notMem_renderDecimal (c : Nat) (unit : Int) : '\n' ∉ renderDecimal c unit := by
  have ds := newline_notMem_digits c
  have take (k : Nat) : '\n' ∉ (digits c).take k := fun h => ds (List.mem_of_mem_take h)
  have drop (k : Nat) : '\n' ∉ (digits c).drop k := fun h => ds (List.mem_of_mem_drop h)
  have exponent := newline_notMem_renderExponent ((digits c).length + unit - 1)
  rw [renderDecimal]
  split
  · simp [ds]
  · split
    · simp [take, drop]
    · split
      · simp [ds]
      · have tail : '\n' ∉ (digits c).tail := fun h => ds (List.mem_of_mem_tail h)
        split <;> simp [take, tail, exponent]

theorem newline_notMem_render (n : Number) : '\n' ∉ n.render := by
  cases n with
  | whole n => exact newline_notMem_renderInt n
  | real x =>
    have body : '\n' ∉ if x.significand = 0 then ['0', '.', '0']
        else renderDecimal x.shortest.1 x.shortest.2 := by
      split
      · decide
      · exact newline_notMem_renderDecimal _ _
    show '\n' ∉ if x.negative then '-' :: (if x.significand = 0 then ['0', '.', '0']
        else renderDecimal x.shortest.1 x.shortest.2)
      else if x.significand = 0 then ['0', '.', '0'] else renderDecimal x.shortest.1 x.shortest.2
    split
    · exact List.not_mem_cons_of_ne_of_not_mem (by decide) body
    · exact body

/-- A line break is a control character, and these are escaped. -/
theorem newline_notMem_escapeChar (c : Char) : '\n' ∉ escapeChar c := by
  have hex : ∀ n < 32, '\n' ≠ hexDigit (n / 16) ∧ '\n' ≠ hexDigit (n % 16) := by decide
  unfold escapeChar
  split
  · decide
  · decide
  · decide
  · decide
  · decide
  · rename_i newline _ _
    split
    · decide
    · split
      · decide
      · split
        · rename_i control
          simp [hex c.toNat control]
        · exact fun h => newline (List.mem_singleton.mp h).symm

theorem newline_notMem_quote (s : String) : '\n' ∉ quote s := by
  have inside : '\n' ∉ s.toList.flatMap escapeChar := by
    rw [List.mem_flatMap]
    rintro ⟨c, -, h⟩
    exact newline_notMem_escapeChar c h
  simp [quote, inside]

mutual

/-- **The text of a value holds no line break.** -/
theorem newline_notMem_renderChars : (v : Json) → '\n' ∉ v.renderChars
  | .null => by decide
  | .bool true => by decide
  | .bool false => by decide
  | .number n => newline_notMem_render n
  | .string s => newline_notMem_quote s
  | .array items => List.not_mem_cons_of_ne_of_not_mem (by decide) (newline_notMem_renderItems items)
  | .object ms => List.not_mem_cons_of_ne_of_not_mem (by decide) (newline_notMem_renderMembers ms)

theorem newline_notMem_renderItems : (items : List Json) → '\n' ∉ renderItems items
  | [] => by decide
  | [v] => by
    simpa [renderItems] using newline_notMem_renderChars v
  | v :: w :: rest => by
    have first := newline_notMem_renderChars v
    have others := newline_notMem_renderItems (w :: rest)
    simp [renderItems.eq_3, first, others]

theorem newline_notMem_renderMembers : (ms : List (String × Json)) → '\n' ∉ renderMembers ms
  | [] => by decide
  | [(k, v)] => by
    have key := newline_notMem_quote k
    simpa [renderMembers, key] using newline_notMem_renderChars v
  | (k, v) :: m :: rest => by
    have key := newline_notMem_quote k
    have first := newline_notMem_renderChars v
    have others := newline_notMem_renderMembers (m :: rest)
    simp [renderMembers.eq_3, key, first, others]

end

/-! ### Depth -/

mutual

/-- Each level of nesting has a bracket or a brace of its own. -/
theorem depth_le_length : (v : Json) → v.depth ≤ v.renderChars.length
  | .null => Nat.zero_le _
  | .bool _ => Nat.zero_le _
  | .number _ => Nat.zero_le _
  | .string _ => Nat.zero_le _
  | .array items => Nat.succ_le_succ (depthItems_le_length items)
  | .object ms => Nat.succ_le_succ (depthMembers_le_length ms)

theorem depthItems_le_length : (items : List Json) →
    depthItems items ≤ (renderItems items).length
  | [] => Nat.zero_le _
  | [v] => by
    have first := depth_le_length v
    simp only [depthItems, renderItems, List.length_append]
    omega
  | v :: w :: rest => by
    have first := depth_le_length v
    have others := depthItems_le_length (w :: rest)
    rw [depthItems, renderItems.eq_3 _ _ (by simp), List.length_append, List.length_cons]
    omega

theorem depthMembers_le_length : (ms : List (String × Json)) →
    depthMembers ms ≤ (renderMembers ms).length
  | [] => Nat.zero_le _
  | [(k, v)] => by
    have first := depth_le_length v
    simp only [depthMembers, renderMembers, List.length_append, List.length_cons]
    omega
  | (k, v) :: m :: rest => by
    have first := depth_le_length v
    have others := depthMembers_le_length (m :: rest)
    rw [depthMembers, renderMembers.eq_3 _ _ _ (by simp)]
    simp only [List.length_append, List.length_cons]
    omega

end

/-! ### Reading -/

/-- The value that a text holds, nested at most so deep. -/
def readWithin (levels : Nat) (cs : List Char) : Option Json :=
  match readValue levels cs with
  | some (v, rest) => if skipGaps rest = [] then some v else none
  | none => none

theorem readWithin_nestingLimit (cs : List Char) : readWithin nestingLimit cs = readText cs := rfl

theorem readWithin_renderChars {v : Json} (h : v.Regular) (levels : Nat) :
    readWithin levels v.renderChars = if v.depth ≤ levels then some v else none := by
  have read := readBack v h levels [] nofun
  rw [List.append_nil] at read
  rw [readWithin, read]
  by_cases fits : v.depth ≤ levels
  · rw [if_pos fits, if_pos fits]
    rfl
  · rw [if_neg fits, if_neg fits]

/-- The value that a text holds, however deep it is nested. -/
def readWhole (cs : List Char) : Option Json := readWithin cs.length cs

theorem readWhole_renderChars {v : Json} (h : v.Regular) : readWhole v.renderChars = some v := by
  rw [readWhole, readWithin_renderChars h, if_pos (depth_le_length v)]

end QueryGateway.Json
