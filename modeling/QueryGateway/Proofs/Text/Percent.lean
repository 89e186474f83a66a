import QueryGateway.Proofs.Text.Hex
import QueryGateway.Proofs.Text.Utf8
import QueryGateway.Text.Percent

/-! Percent-encoded bytes are read back.

Letters, digits and some marks are left as they are, and every other byte is spelled with two
digits behind a percent sign. Where the percent sign is not among the marks, what is read back are
the bytes themselves (`decode_encode`). -/
namespace QueryGateway.Text.Percent

/-- A hexadecimal digit, in upper case. -/
def digit (n : Nat) : UInt8 :=
  if n < 10 then ('0'.toNat + n).toUInt8 else ('A'.toNat + (n - 10)).toUInt8

/-- A byte as two digits behind a percent sign. -/
def spell (b : UInt8) : List UInt8 := ['%'.toUInt8, digit (b.toNat / 16), digit (b.toNat % 16)]

/-- Whether a byte is a letter, a digit or one of some marks. -/
def isPlain (marks : List Char) (b : UInt8) : Bool :=
  (Char.ofNat b.toNat).isAlphanum || (marks.map Char.toUInt8).contains b

/-- Bytes, all of them spelled but letters, digits and some marks. -/
def encode (marks : List Char) (bs : List UInt8) : List UInt8 :=
  bs.flatMap fun b => if isPlain marks b then [b] else spell b

/-! ### Single bytes -/

theorem digit?_digit {n : Nat} (h : n < 16) :
    Hex.digit? (Char.ofNat (digit n).toNat) = some n := by
  revert n
  decide

theorem isPlain_digit (marks : List Char) {n : Nat} (h : n < 16) : isPlain marks (digit n) = true := by
  have letter : (Char.ofNat (digit n).toNat).isAlphanum = true := by
    revert n
    decide
  rw [isPlain, letter, Bool.true_or]

theorem spelled?_digits (b : UInt8) :
    spelled? (digit (b.toNat / 16)) (digit (b.toNat % 16)) = some b := by
  have byte : b.toNat < 256 := b.toNat_lt
  exact Hex.byte?_halves (digit?_digit (by omega)) (digit?_digit (by omega))

theorem decode_spell (b : UInt8) (rest : List UInt8) :
    decode (spell b ++ rest) = b :: decode rest := by
  show decode ('%'.toUInt8 :: digit (b.toNat / 16) :: digit (b.toNat % 16) :: rest) = _
  rw [decode, if_pos rfl, spelled?_digits]

theorem decode_cons_of_ne {b : UInt8} (h : b ≠ '%'.toUInt8) (rest : List UInt8) :
    decode (b :: rest) = b :: decode rest := by
  match rest with
  | [] => rfl
  | [_] => rfl
  | _ :: _ :: _ => rw [decode, if_neg h]

/-! ### Texts -/

section Marks

variable {marks : List Char} (percent : isPlain marks '%'.toUInt8 = false)

include percent in
theorem decode_encode (bs : List UInt8) : decode (encode marks bs) = bs := by
  induction bs with
  | nil => rfl
  | cons b bs ih =>
    rw [encode, List.flatMap_cons, ← encode]
    split
    · rename_i plain
      have other : b ≠ '%'.toUInt8 := by
        rintro rfl
        rw [percent] at plain
        cases plain
      rw [List.singleton_append, decode_cons_of_ne other, ih]
    · rw [decode_spell, ih]

/-- Encoded bytes are percent signs and those that are left as they are. -/
theorem mem_encode {b : UInt8} {bs : List UInt8} (h : b ∈ encode marks bs) :
    b = '%'.toUInt8 ∨ isPlain marks b = true := by
  obtain ⟨c, -, h⟩ := List.mem_flatMap.mp h
  have byte : c.toNat < 256 := c.toNat_lt
  split at h
  · rename_i plain
    obtain rfl := List.mem_singleton.mp h
    exact .inr plain
  · rcases List.mem_cons.mp h with rfl | h
    · exact .inl rfl
    · rcases List.mem_cons.mp h with rfl | h
      · exact .inr (isPlain_digit marks (by omega))
      · obtain rfl := List.mem_singleton.mp h
        exact .inr (isPlain_digit marks (by omega))

theorem toNat_lt_of_isAlphanum {c : Char} (h : c.isAlphanum = true) : c.toNat < 0x80 := by
  have value : c.toNat = c.val.toNat := rfl
  have classes : (decide ('A'.val ≤ c.val ∧ c.val ≤ 'Z'.val) ||
      (decide ('a'.val ≤ c.val) && decide (c.val ≤ 'z'.val)) ||
      (decide ('0'.val ≤ c.val) && decide (c.val ≤ '9'.val))) = true := h
  simp [UInt32.le_iff_toNat_le] at classes
  omega

/-- Where the marks are ASCII characters, so is all that is encoded. -/
theorem ascii_of_mem_encode (ascii : ∀ c ∈ marks, c.toNat < 0x80) {b : UInt8} {bs : List UInt8}
    (h : b ∈ encode marks bs) : b.toNat < 0x80 := by
  rcases mem_encode h with rfl | plain
  · decide
  · rw [isPlain, Bool.or_eq_true] at plain
    rcases plain with letter | mark
    · have low := toNat_lt_of_isAlphanum letter
      rwa [Utf8.toNat_ofNat b.toNat_lt] at low
    · obtain ⟨c, hc, rfl⟩ := List.mem_map.mp (List.contains_iff_mem.mp mark)
      have low := ascii c hc
      show c.toNat % 256 < 0x80
      omega

end Marks

end QueryGateway.Text.Percent
