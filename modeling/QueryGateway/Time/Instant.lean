/-! Spans of time, and instants in universal time.

A span is a natural number of nanoseconds; an instant counts seconds from the start of 1970
in either direction, and nanoseconds within the second. A second may be followed by a leap
second, which has no number of its own. Instants lie between the years -262143 and 262142 of
the proleptic Gregorian calendar. -/
namespace QueryGateway

/-- A length of time. -/
structure Span where
  nanos : Nat
  deriving DecidableEq, Repr, Inhabited

namespace Span

/-- Nanoseconds in a second. -/
def perSecond : Nat := Nat.pow 10 9

def zero : Span := ⟨0⟩

def ofSeconds (n : Nat) : Span := ⟨n * perSecond⟩

/-- The whole seconds of a span. -/
def seconds (s : Span) : Nat := s.nanos / perSecond

/-- The nanoseconds beyond the whole seconds of a span. -/
def subsecond (s : Span) : Nat := s.nanos % perSecond

def isZero (s : Span) : Bool := s.nanos = 0

def min (s t : Span) : Span := ⟨Nat.min s.nanos t.nanos⟩

def max (s t : Span) : Span := ⟨Nat.max s.nanos t.nanos⟩

/-- The greatest number of whole seconds that a span can have. -/
def secondsLimit : Nat := Nat.pow 2 64

/-- The span of whole seconds and any number of nanoseconds, if it has few enough seconds. -/
def ofParts? (seconds nanos : Nat) : Option Span :=
  let s : Span := ⟨seconds * perSecond + nanos⟩
  if s.seconds < secondsLimit then some s else none

end Span

/-- A point in time. The leap second after a second is told by a fraction of more than a
second. -/
structure Instant where
  second : Int
  fraction : Nat
  deriving DecidableEq, Repr, Inhabited

namespace Instant

/-! ### The calendar -/

/-- A day of the calendar. -/
structure Date where
  year : Int
  month : Nat
  day : Nat
  deriving DecidableEq, Repr

def isLeapYear (year : Int) : Bool := year % 4 = 0 && (year % 100 ≠ 0 || year % 400 = 0)

def daysInMonth (year : Int) (month : Nat) : Nat :=
  match month with
  | 2 => if isLeapYear year then 29 else 28
  | 4 | 6 | 9 | 11 => 30
  | _ => 31

/-- The number of a day, counted from the start of 1970. Years are taken to begin in March,
so that a leap day is the last of its year, and to repeat every 400 years. -/
def dayNumber (d : Date) : Int :=
  let y := if d.month ≤ 2 then d.year - 1 else d.year
  let era := y.fdiv 400
  let yearOfEra := y - era * 400
  let monthFromMarch : Int := ((d.month : Int) + 9) % 12
  let dayOfYear := (153 * monthFromMarch + 2) / 5 + d.day - 1
  let dayOfEra := yearOfEra * 365 + yearOfEra / 4 - yearOfEra / 100 + dayOfYear
  era * 146097 + dayOfEra - 719468

/-- The day with a number. -/
def ofDayNumber (n : Int) : Date :=
  let z := n + 719468
  let era := z.fdiv 146097
  let dayOfEra := z - era * 146097
  let yearOfEra := (dayOfEra - dayOfEra / 1460 + dayOfEra / 36524 - dayOfEra / 146096) / 365
  let dayOfYear := dayOfEra - (365 * yearOfEra + yearOfEra / 4 - yearOfEra / 100)
  let monthFromMarch := (5 * dayOfYear + 2) / 153
  let day := dayOfYear - (153 * monthFromMarch + 2) / 5 + 1
  let month := if monthFromMarch < 10 then monthFromMarch + 3 else monthFromMarch - 9
  let year := yearOfEra + era * 400 + (if month ≤ 2 then 1 else 0)
  ⟨year, month.toNat, day.toNat⟩

/-- Seconds in a day. -/
def perDay : Int := 86400

/-- The second at the start of a day. -/
def startOfDay (d : Date) : Int := dayNumber d * perDay

/-- The first second of the calendar. -/
def firstSecond : Int := startOfDay ⟨-262143, 1, 1⟩

/-- The last second of the calendar. -/
def lastSecond : Int := startOfDay ⟨262143, 1, 1⟩ - 1

/-- Whether a second lies within the calendar. -/
def inCalendar (second : Int) : Bool := firstSecond ≤ second && second ≤ lastSecond

/-! ### Order and arithmetic -/

/-- Whether an instant is no later than another one. -/
def notAfter (t u : Instant) : Bool :=
  t.second < u.second || (t.second = u.second && t.fraction ≤ u.fraction)

/-- Whether an instant lies within a leap second. -/
def isLeap (t : Instant) : Bool := Span.perSecond ≤ t.fraction

/-- The instant a span after one that lies in no leap second; leap seconds in between do not
count. -/
def advance (t : Instant) (s : Span) : Instant :=
  let nanos := t.fraction + s.nanos
  ⟨t.second + (nanos / Span.perSecond : Nat), nanos % Span.perSecond⟩

/-- The instant a span later. A span that leads out of a leap second is taken from the same
place in the second before it. -/
def after (t : Instant) (s : Span) : Instant :=
  if !t.isLeap then t.advance s
  else if t.fraction + s.nanos < 2 * Span.perSecond then ⟨t.second, t.fraction + s.nanos⟩
  else advance ⟨t.second, t.fraction - Span.perSecond⟩ s

/-- The longest span that can be added to an instant: as many milliseconds as a signed
number of 64 bits holds. -/
def longestStep : Span := ⟨(Nat.pow 2 63 - 1) * Nat.pow 10 6⟩

/-- The instant a span later, unless the span is too long or the result lies behind the end of
the calendar. -/
def later? (t : Instant) (s : Span) : Option Instant :=
  if s.nanos ≤ longestStep.nanos && (t.after s).second ≤ lastSecond then some (t.after s)
  else none

/-! ### Text -/

/-- A natural in decimal digits, with zeros in front up to a width. -/
def padded (width n : Nat) : List Char :=
  let ds := Nat.toDigits 10 n
  List.replicate (width - ds.length) '0' ++ ds

/-- A year: four digits, or a sign and more. -/
def renderYear (y : Int) : List Char :=
  if 0 ≤ y && y ≤ 9999 then padded 4 y.toNat
  else (if y < 0 then '-' else '+') :: padded 4 y.natAbs

/-- The fraction of a second in three, six or nine digits, the fewest that are exact. -/
def renderFraction (nanos : Nat) : List Char :=
  if nanos = 0 then []
  else if nanos % Nat.pow 10 6 = 0 then '.' :: padded 3 (nanos / Nat.pow 10 6)
  else if nanos % Nat.pow 10 3 = 0 then '.' :: padded 6 (nanos / Nat.pow 10 3)
  else '.' :: padded 9 nanos

/-- An instant as its date and time, for instance `2024-01-01T00:00:00Z`. A leap second is
the sixty-first of its minute. -/
def renderChars (t : Instant) : List Char :=
  let d := ofDayNumber (t.second.fdiv perDay)
  let time := (t.second.fmod perDay).toNat
  renderYear d.year ++ '-' :: padded 2 d.month ++ '-' :: padded 2 d.day
    ++ 'T' :: padded 2 (time / 3600) ++ ':' :: padded 2 (time / 60 % 60)
    ++ ':' :: padded 2 (time % 60 + t.fraction / Span.perSecond)
    ++ renderFraction (t.fraction % Span.perSecond) ++ ['Z']

def render (t : Instant) : String := String.ofList t.renderChars

end Instant

end QueryGateway
