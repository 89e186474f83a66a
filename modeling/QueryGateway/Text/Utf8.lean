/-! Text as bytes.

`encode` gives every character its one to four bytes. `scan` reads bytes back: each
longest run of bytes that begins a character without completing it counts as one bad
character, as does each byte that begins none. The strict reading allows no bad
character, the lenient one puts U+FFFD in its place. -/
namespace QueryGateway.Text.Utf8

/-- The bytes of a character. -/
def encodeChar (c : Char) : List UInt8 :=
  let n := c.toNat
  if n < 0x80 then [n.toUInt8]
  else if n < 0x800 then [(0xC0 + n / 0x40).toUInt8, (0x80 + n % 0x40).toUInt8]
  else if n < 0x10000 then
    [(0xE0 + n / 0x1000).toUInt8, (0x80 + n / 0x40 % 0x40).toUInt8, (0x80 + n % 0x40).toUInt8]
  else
    [(0xF0 + n / 0x40000).toUInt8, (0x80 + n / 0x1000 % 0x40).toUInt8,
     (0x80 + n / 0x40 % 0x40).toUInt8, (0x80 + n % 0x40).toUInt8]

/-- The bytes of characters. -/
def encodeChars (cs : List Char) : List UInt8 := cs.flatMap encodeChar

/-- The bytes of a text. -/
def encode (s : String) : List UInt8 := encodeChars s.toList

/-- What a first byte announces: how many bytes follow, between which bounds the next one
lies, and the bits that the first byte contributes. The bounds shut out characters with a
shorter form, surrogates, and what lies beyond the last character. -/
structure Lead where
  more : Nat
  low : Nat
  high : Nat
  bits : Nat
  deriving DecidableEq, Repr

/-- What a byte above the ASCII range announces, if it begins a character. -/
def lead? (b : Nat) : Option Lead :=
  if b < 0xC2 then none
  else if b < 0xE0 then some ⟨1, 0x80, 0xBF, b - 0xC0⟩
  else if b = 0xE0 then some ⟨2, 0xA0, 0xBF, 0⟩
  else if b = 0xED then some ⟨2, 0x80, 0x9F, 0xD⟩
  else if b < 0xF0 then some ⟨2, 0x80, 0xBF, b - 0xE0⟩
  else if b = 0xF0 then some ⟨3, 0x90, 0xBF, 0⟩
  else if b < 0xF4 then some ⟨3, 0x80, 0xBF, b - 0xF0⟩
  else if b = 0xF4 then some ⟨3, 0x80, 0x8F, 4⟩
  else none

/-- The characters that bytes stand for, `none` for a bad one. `pending` is the character
begun, if any. -/
def scanFrom : (pending : Option Lead) → List UInt8 → List (Option Char)
  | none, [] => []
  | some _, [] => [none]
  | none, b :: rest => start b (scanFrom · rest)
  | some l, b :: rest =>
    let n := b.toNat
    if l.low ≤ n && n ≤ l.high then
      let bits := l.bits * 0x40 + (n - 0x80)
      if l.more = 1 then some (Char.ofNat bits) :: scanFrom none rest
      else scanFrom (some ⟨l.more - 1, 0x80, 0xBF, bits⟩) rest
    else none :: start b (scanFrom · rest)
where
  /-- A byte that no character awaits. -/
  start (b : UInt8) (go : Option Lead → List (Option Char)) : List (Option Char) :=
    let n := b.toNat
    if n < 0x80 then some (Char.ofNat n) :: go none
    else
      match lead? n with
      | none => none :: go none
      | some l => go (some l)

/-- The characters that bytes stand for, `none` for a bad one. -/
def scan (bs : List UInt8) : List (Option Char) := scanFrom none bs

/-- The text of bytes that hold no bad character. -/
def decode? (bs : List UInt8) : Option String := ((scan bs).mapM id).map String.ofList

/-- The text of bytes, each bad character replaced. -/
def decodeLossy (bs : List UInt8) : String :=
  String.ofList ((scan bs).map fun c => c.getD '\uFFFD')

end QueryGateway.Text.Utf8
