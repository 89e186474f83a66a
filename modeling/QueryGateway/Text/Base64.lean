/-! Bytes in base 64, with the standard alphabet and its padding.

Four digits stand for three bytes; at the end one or two signs of padding stand for the
bytes that are missing. A text is read only if it is the one that its bytes are written
as: the padding must be there, and the bits that it leaves over must be zero. -/
namespace QueryGateway.Text.Base64

/-- The value of a digit. -/
def digit? (c : Char) : Option Nat :=
  if 'A' ≤ c && c ≤ 'Z' then some (c.toNat - 'A'.toNat)
  else if 'a' ≤ c && c ≤ 'z' then some (c.toNat - 'a'.toNat + 26)
  else if '0' ≤ c && c ≤ '9' then some (c.toNat - '0'.toNat + 52)
  else if c = '+' then some 62
  else if c = '/' then some 63
  else none

/-- The bytes of the last four characters, padding included. -/
def lastGroup (a b c d : Char) : Option (List UInt8) := do
  let x ← digit? a
  let y ← digit? b
  let first := (x * 4 + y / 16).toUInt8
  if c = '=' then
    if d = '=' && y % 16 = 0 then some [first] else none
  else
    let z ← digit? c
    let second := (y % 16 * 16 + z / 4).toUInt8
    if d = '=' then
      if z % 4 = 0 then some [first, second] else none
    else
      let w ← digit? d
      some [first, second, (z % 4 * 64 + w).toUInt8]

/-- The bytes of four digits. -/
def group (a b c d : Char) : Option (List UInt8) := do
  let x ← digit? a
  let y ← digit? b
  let z ← digit? c
  let w ← digit? d
  return [(x * 4 + y / 16).toUInt8, (y % 16 * 16 + z / 4).toUInt8, (z % 4 * 64 + w).toUInt8]

/-- The bytes that a text in base 64 stands for. -/
def decode? : List Char → Option (List UInt8)
  | [] => some []
  | [a, b, c, d] => lastGroup a b c d
  | a :: b :: c :: d :: rest => do return (← group a b c d) ++ (← decode? rest)
  | _ => none

end QueryGateway.Text.Base64
