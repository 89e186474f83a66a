/-! Finite binary numbers of 64 bits, in exact arithmetic.

A number is a sign and a `significand · 2 ^ exponent` of at most 53 bits. Every operation
takes the exact result as a quotient of naturals and rounds it once, to the nearest number,
the even one of two; a result too large to be finite is none at all. -/
namespace QueryGateway

/-- A finite number of the format. A zero has the exponent zero; any other number has a
significand of 53 bits, or the least exponent. -/
structure Binary64 where
  negative : Bool
  significand : Nat
  exponent : Int
  deriving DecidableEq, Repr

namespace Binary64

/-- Zero. -/
def zero : Binary64 := ⟨false, 0, 0⟩

/-- The exponent of the smallest numbers. -/
def leastExponent : Int := -1074

/-- The exponent of the largest numbers. -/
def greatestExponent : Int := 971

/-- `2 ^ e` as a quotient of naturals. -/
def powerRatio (base : Nat) (e : Int) : Nat × Nat :=
  if 0 ≤ e then (Nat.pow base e.toNat, 1) else (1, Nat.pow base (-e).toNat)

/-- The whole number nearest to a quotient, the even one of two. -/
def roundDiv (num den : Nat) : Nat :=
  let q := num / den
  let r := num % den
  if den < 2 * r || (2 * r = den && q % 2 = 1) then q + 1 else q

/-- The exponent that leaves a quotient a whole part of 53 bits. -/
def normalExponent (num den : Nat) : Int :=
  let guess : Int := (Nat.log2 num : Int) - Nat.log2 den - 52
  let (up, down) := powerRatio 2 guess
  if num * down < den * up * Nat.pow 2 52 then guess - 1 else guess

/-- The number nearest to a quotient of naturals, unless it is too large. -/
def ofRatio (num den : Nat) : Option Binary64 :=
  if num = 0 then some zero
  else
    let e := max leastExponent (normalExponent num den)
    let (up, down) := powerRatio 2 e
    let m := roundDiv (num * down) (den * up)
    let (m, e) := if m = Nat.pow 2 53 then (Nat.pow 2 52, e + 1) else (m, e)
    if m = 0 then some zero
    else if greatestExponent < e then none
    else some ⟨false, m, e⟩

/-- The magnitude of a number as a quotient of naturals. -/
def ratio (x : Binary64) : Nat × Nat :=
  let (up, down) := powerRatio 2 x.exponent
  (x.significand * up, down)

/-- The number nearest to a natural. -/
def ofNat (n : Nat) : Option Binary64 := ofRatio n 1

/-- A product of magnitudes. -/
def mul (x y : Binary64) : Option Binary64 :=
  ofRatio (x.ratio.1 * y.ratio.1) (x.ratio.2 * y.ratio.2)

/-- A quotient of magnitudes; the divisor is not zero. -/
def div (x y : Binary64) : Option Binary64 :=
  ofRatio (x.ratio.1 * y.ratio.2) (x.ratio.2 * y.ratio.1)

/-- The number with a sign. -/
def signed (negative : Bool) (x : Binary64) : Binary64 := { x with negative := negative }

/-- The number nearest to a power of ten; zero above the greatest one. -/
def powerOfTen (n : Nat) : Binary64 := (ofNat (Nat.pow 10 n)).getD zero

/-! ### The shortest decimal -/

/-- The reals that round to a number, as quotients over one denominator: the lower end,
the upper end, the denominator, and whether the ends belong. Half a unit lies on either
side; below a power of two only a quarter does. -/
def interval (x : Binary64) : Nat × Nat × Nat × Bool :=
  let (up, down) := powerRatio 2 (x.exponent - 2)
  let below := if x.significand = Nat.pow 2 52 && leastExponent < x.exponent then 1 else 2
  ((4 * x.significand - below) * up, (4 * x.significand + 2) * up, down, x.significand % 2 = 0)

/-- How many digits stand before the point of a quotient; for one below a tenth, minus the
zeros behind the point. -/
def pointAfter (num den : Nat) : Int :=
  if den ≤ num then (Nat.toDigits 10 (num / den)).length
  else
    let short := (Nat.toDigits 10 (den / num)).length
    if den ≤ num * Nat.pow 10 (short - 1) then 2 - (short : Int) else 1 - (short : Int)

/-- Of the two decimals with units `10 ^ unit` next to a number, the nearer one that rounds
to it; an exact tie goes to the even one. -/
def onGrid (x : Binary64) (unit : Int) : Option Nat :=
  let (num, den) := x.ratio
  let (low, high, base, closed) := x.interval
  let (up, down) := powerRatio 10 unit
  let fits (c : Nat) : Bool :=
    let value := c * up * base
    if closed then low * down ≤ value && value ≤ high * down
    else low * down < value && value < high * down
  let scaled := num * down
  let step := den * up
  let c := scaled / step
  let twice := 2 * (scaled % step)
  let nearer := if step < twice || (twice = step && c % 2 = 1) then c + 1 else c
  let other := if nearer = c then c + 1 else c
  if fits nearer then some nearer else if fits other then some other else none

/-- The first grid from `digits` on, up to 17 digits, that has a decimal for a number. -/
def firstGrid (x : Binary64) (point : Int) : (fuel : Nat) → (digits : Nat) → Nat × Int
  | 0, _ => (x.significand, 0)
  | fuel + 1, digits =>
    let unit := point - digits
    match x.onGrid unit with
    | some c => (c, unit)
    | none => firstGrid x point fuel (digits + 1)

/-- A decimal without zeros at its end. -/
def dropZeros : (fuel : Nat) → Nat → Int → Nat × Int
  | 0, c, unit => (c, unit)
  | fuel + 1, c, unit =>
    if c ≠ 0 && c % 10 = 0 then dropZeros fuel (c / 10) (unit + 1) else (c, unit)

/-- The decimal `c · 10 ^ unit` with the fewest digits that rounds to a number other than
zero, the nearest of those. -/
def shortest (x : Binary64) : Nat × Int :=
  let (num, den) := x.ratio
  let (c, unit) := firstGrid x (pointAfter num den) 17 1
  dropZeros 18 c unit

end Binary64

end QueryGateway
