import QueryGateway.Proofs.Text.Percent
import QueryGateway.Text.Form

/-! Form-encoded pairs are read back.

What separates pairs and what separates a key from its value stands in no key and no value once
they are encoded, and a plus sign stands only for a blank. So a text of pairs holds what its pieces
hold (`decode_pieces`), and pairs that are encoded are read back, in their order and as often as
they are there (`decode_encode`). -/
namespace QueryGateway.Text.Form

/-! ### Keys and values -/

/-- What is left as it is in a key or a value, blanks included, which are written as plus signs. -/
def plainMarks : List Char := ['*', '-', '.', '_', ' ']

/-- A key or a value as it is written. -/
def encodePart (s : String) : List UInt8 :=
  (Percent.encode plainMarks (Utf8.encode s)).map fun b =>
    if b = ' '.toUInt8 then '+'.toUInt8 else b

theorem plus_notMem_encode (bs : List UInt8) : '+'.toUInt8 ∉ Percent.encode plainMarks bs := by
  intro h
  rcases Percent.mem_encode h with same | plain
  · cases same
  · have none : Percent.isPlain plainMarks '+'.toUInt8 = false := by decide
    rw [none] at plain
    cases plain

theorem decodePart_encodePart (s : String) : decodePart (encodePart s) = s := by
  have blanks : (encodePart s).map (fun b => if b = '+'.toUInt8 then ' '.toUInt8 else b) =
      Percent.encode plainMarks (Utf8.encode s) := by
    rw [encodePart, List.map_map]
    refine (List.map_congr_left fun b hb => ?_).trans (List.map_id _)
    show (if (if b = ' '.toUInt8 then '+'.toUInt8 else b) = '+'.toUInt8 then ' '.toUInt8
      else if b = ' '.toUInt8 then '+'.toUInt8 else b) = b
    by_cases blank : b = ' '.toUInt8
    · rw [if_pos blank, if_pos rfl, blank]
    · rw [if_neg blank, if_neg fun plus => plus_notMem_encode _ (plus ▸ hb)]
  rw [decodePart, blanks, Percent.decode_encode (by decide), Utf8.decodeLossy_encode]

/-- A mark that is not left as it is stands in no key and no value. -/
theorem notMem_encodePart {mark : UInt8} (other : mark ≠ '+'.toUInt8 ∧ mark ≠ '%'.toUInt8)
    (spelled : Percent.isPlain plainMarks mark = false) (s : String) : mark ∉ encodePart s := by
  intro h
  obtain ⟨b, hb, same⟩ := List.mem_map.mp h
  split at same
  · exact other.1 same.symm
  · subst same
    rcases Percent.mem_encode hb with rfl | plain
    · exact other.2 rfl
    · rw [spelled] at plain
      cases plain

/-! ### Pairs -/

/-- A pair as it is written. -/
def encodePair (pair : String × String) : List UInt8 :=
  encodePart pair.1 ++ '='.toUInt8 :: encodePart pair.2

/-- Pieces with the mark between them that separates pairs. -/
def join (pieces : List (List UInt8)) : List UInt8 := ['&'.toUInt8].intercalate pieces

/-- Pairs as they are written. -/
def encode (pairs : List (String × String)) : List UInt8 := join (pairs.map encodePair)

theorem amp_notMem_encodePair (pair : String × String) : '&'.toUInt8 ∉ encodePair pair := by
  have part (s : String) : '&'.toUInt8 ∉ encodePart s := notMem_encodePart (by decide) (by decide) s
  have apart : '&'.toUInt8 ≠ '='.toUInt8 := by decide
  simp [encodePair, part, apart]

theorem splitAtMark_append {mark : UInt8} {front : List UInt8} (h : mark ∉ front)
    (back : List UInt8) : splitAtMark mark (front ++ mark :: back) = (front, some back) := by
  have other : ∀ b ∈ front, decide (b ≠ mark) = true := fun b hb =>
    decide_eq_true fun same => h (same ▸ hb)
  have stops : decide (mark ≠ mark) = false := by simp
  rw [splitAtMark, List.takeWhile_append_of_pos other, List.dropWhile_append_of_pos other,
    List.takeWhile_cons, stops, List.dropWhile_cons, stops]
  simp

theorem pieces_eq_splitOnPPrepend (mark : UInt8) (current bs : List UInt8) :
    pieces mark current bs = bs.splitOnPPrepend (· == mark) current := by
  induction bs generalizing current with
  | nil => rfl
  | cons b rest ih =>
    rw [pieces]
    split
    · rename_i here
      rw [List.splitOnPPrepend_cons_pos (p := (· == mark)) (beq_iff_eq.mpr here), ih]
      rfl
    · rename_i other
      rw [List.splitOnPPrepend_cons_neg (p := (· == mark)) (beq_eq_false_iff_ne.mpr other), ih]

/-- The pieces of a text are what it splits into. -/
theorem pieces_eq_splitOn (mark : UInt8) (bs : List UInt8) : pieces mark [] bs = bs.splitOn mark :=
  pieces_eq_splitOnPPrepend mark [] bs

/-- The pairs of a text are those before a separating mark and those behind it. -/
theorem decode_append (front back : List UInt8) :
    decode (front ++ '&'.toUInt8 :: back) = decode front ++ decode back := by
  have apart : pieces '&'.toUInt8 [] (front ++ '&'.toUInt8 :: back) =
      pieces '&'.toUInt8 [] front ++ pieces '&'.toUInt8 [] back := by
    rw [pieces_eq_splitOn, pieces_eq_splitOn, pieces_eq_splitOn]
    exact List.splitOn_append_cons_self ..
  rw [decode, apart, List.filter_append, List.map_append]
  rfl

/-- Pieces that are put together hold the pairs that each of them holds. -/
theorem decode_join (parts : List (List UInt8)) : decode (join parts) = parts.flatMap decode := by
  induction parts with
  | nil => rfl
  | cons part rest ih =>
    cases rest with
    | nil => simp [join, List.intercalate]
    | cons next rest =>
      have joined : join (part :: next :: rest) = part ++ '&'.toUInt8 :: join (next :: rest) := by
        simp [join, List.intercalate]
      rw [joined, decode_append, ih]
      rfl

theorem decode_encodePair (pair : String × String) : decode (encodePair pair) = [pair] := by
  have whole : pieces '&'.toUInt8 [] (encodePair pair) = [encodePair pair] := by
    have alone : ∀ part ∈ [encodePair pair], '&'.toUInt8 ∉ part :=
      List.forall_mem_singleton.mpr (amp_notMem_encodePair pair)
    have split := List.splitOn_intercalate _ alone (List.cons_ne_nil _ _)
    rw [pieces_eq_splitOn]
    simpa [List.intercalate] using split
  have filled : (encodePair pair).isEmpty = false := by
    simp [encodePair]
  have key : '='.toUInt8 ∉ encodePart pair.1 := notMem_encodePart (by decide) (by decide) _
  rw [decode, whole, List.filter_cons, filled]
  show [(decodePart (splitAtMark '='.toUInt8 (encodePair pair)).1,
    decodePart ((splitAtMark '='.toUInt8 (encodePair pair)).2.getD []))] = _
  rw [encodePair, splitAtMark_append key]
  show [(decodePart (encodePart pair.1), decodePart (encodePart pair.2))] = _
  rw [decodePart_encodePart, decodePart_encodePart]

/-- **Pairs are read back as they were written.** -/
theorem decode_encode (pairs : List (String × String)) : decode (encode pairs) = pairs := by
  rw [encode, decode_join, List.flatMap_map]
  simp only [decode_encodePair]
  exact List.flatMap_singleton' pairs

end QueryGateway.Text.Form
