import QueryGateway.Text.Percent
import QueryGateway.Text.Utf8

/-! Form-encoded pairs.

Pairs are separated by `&`, empty ones are passed over; a pair's key and value are separated
by its first `=`. In both a plus sign is a blank, and what is percent-encoded is decoded;
bytes that are no text then are replaced. -/
namespace QueryGateway.Text.Form

/-- Bytes up to the first `mark`, and what follows it, if there is one. -/
def splitAtMark (mark : UInt8) (bs : List UInt8) : List UInt8 × Option (List UInt8) :=
  (bs.takeWhile (· ≠ mark), match bs.dropWhile (· ≠ mark) with
    | _ :: rest => some rest
    | [] => none)

/-- The pieces between the bytes that are `mark`, of which `current` were read since the
last one, the last byte first. -/
def pieces (mark : UInt8) (current : List UInt8) : List UInt8 → List (List UInt8)
  | [] => [current.reverse]
  | b :: rest =>
    if b = mark then current.reverse :: pieces mark [] rest
    else pieces mark (b :: current) rest

/-- The text of a key or a value. -/
def decodePart (bs : List UInt8) : String :=
  Utf8.decodeLossy
    (Percent.decode (bs.map fun b => if b = '+'.toUInt8 then ' '.toUInt8 else b))

/-- The pairs that bytes hold. -/
def decode (bs : List UInt8) : List (String × String) :=
  ((pieces '&'.toUInt8 [] bs).filter (!·.isEmpty)).map fun piece =>
    let (key, value) := splitAtMark '='.toUInt8 piece
    (decodePart key, decodePart (value.getD []))

end QueryGateway.Text.Form
