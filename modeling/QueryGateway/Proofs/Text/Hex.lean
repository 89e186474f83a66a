import QueryGateway.Text.Hex

/-! Bytes in hexadecimal digits are read back, so different bytes have different digits. -/
namespace QueryGateway.Text.Hex

theorem digit?_digitChar {n : Nat} (h : n < 16) : digit? (Nat.digitChar n) = some n := by
  revert n
  decide

/-- A byte is told by its two halves. -/
theorem byte?_halves {high low : Char} {b : UInt8} (hhigh : digit? high = some (b.toNat / 16))
    (hlow : digit? low = some (b.toNat % 16)) : byte? high low = some b := by
  have whole : b.toNat / 16 * 16 + b.toNat % 16 = b.toNat := by omega
  rw [byte?, hhigh, hlow]
  show some (b.toNat / 16 * 16 + b.toNat % 16).toUInt8 = some b
  rw [whole]
  exact congrArg some UInt8.ofNat_toNat

/-- **Bytes are read back** from their digits. -/
theorem decode?_encode (bs : List UInt8) : decode? (bs.flatMap encodeByte) = some bs := by
  induction bs with
  | nil => rfl
  | cons b bs ih =>
    have byte : b.toNat < 256 := b.toNat_lt
    have first : byte? (Nat.digitChar (b.toNat / 16)) (Nat.digitChar (b.toNat % 16)) = some b :=
      byte?_halves (digit?_digitChar (by omega)) (digit?_digitChar (by omega))
    show decode? (Nat.digitChar (b.toNat / 16) :: Nat.digitChar (b.toNat % 16) ::
      bs.flatMap encodeByte) = _
    rw [decode?, first, ih]
    rfl

theorem encode_inj {bs cs : List UInt8} : encode bs = encode cs ↔ bs = cs := by
  constructor
  · intro same
    have read := congrArg decode? (String.ofList_injective same)
    rw [decode?_encode, decode?_encode] at read
    exact Option.some.inj read
  · intro same
    rw [same]

end QueryGateway.Text.Hex
