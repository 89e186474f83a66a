/-! Bytes as lower-case hexadecimal digits, two for each byte. -/
namespace QueryGateway.Text.Hex

/-- The digits of a byte. -/
def encodeByte (b : UInt8) : List Char :=
  [Nat.digitChar (b.toNat / 16), Nat.digitChar (b.toNat % 16)]

/-- The digits of bytes. -/
def encode (bs : List UInt8) : String := String.ofList (bs.flatMap encodeByte)

/-- The value of a digit in either case. -/
def digit? (c : Char) : Option Nat :=
  if '0' ≤ c && c ≤ '9' then some (c.toNat - '0'.toNat)
  else if 'a' ≤ c && c ≤ 'f' then some (c.toNat - 'a'.toNat + 10)
  else if 'A' ≤ c && c ≤ 'F' then some (c.toNat - 'A'.toNat + 10)
  else none

/-- The byte of two digits. -/
def byte? (high low : Char) : Option UInt8 := do
  return ((← digit? high) * 16 + (← digit? low)).toUInt8

/-- The bytes that digits stand for. -/
def decode? : List Char → Option (List UInt8)
  | [] => some []
  | high :: low :: rest => do return (← byte? high low) :: (← decode? rest)
  | [_] => none

end QueryGateway.Text.Hex
