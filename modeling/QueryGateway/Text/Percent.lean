import QueryGateway.Text.Hex

/-! Percent-encoded bytes.

A percent sign with two hexadecimal digits behind it stands for a byte; any other percent
sign stands for itself. -/
namespace QueryGateway.Text.Percent

/-- The byte that two bytes spell in hexadecimal digits. -/
def spelled? (high low : UInt8) : Option UInt8 :=
  Hex.byte? (Char.ofNat high.toNat) (Char.ofNat low.toNat)

/-- The bytes that percent-encoded bytes stand for. -/
def decode : List UInt8 → List UInt8
  | [] => []
  | b :: high :: low :: rest =>
    if b = '%'.toUInt8 then
      match spelled? high low with
      | some byte => byte :: decode rest
      | none => b :: decode (high :: low :: rest)
    else b :: decode (high :: low :: rest)
  | b :: rest => b :: decode rest

end QueryGateway.Text.Percent
