import QueryGateway.Text.Blank
import QueryGateway.Time.Instant

/-! Reading an instant from its date and time.

The text is a date, a `T` or a blank, a time with an optional fraction, and an offset from
universal time: `Z`, `UTC`, or a sign with hours and minutes. Blanks may stand before each
number, before a separator of the date or the time and before the offset; the year may
have a sign, and more than four digits then. Digits of a fraction beyond the ninth are
dropped. -/
namespace QueryGateway.Instant

/-- A reader of a part from the front of a text. -/
abbrev PartReader (α : Type) := List Char → Option (α × List Char)

def skipBlanks (cs : List Char) : List Char := cs.dropWhile Text.isBlank

/-- The number that digits spell. -/
def numberOf (ds : List Char) : Nat := ds.foldl (fun n c => n * 10 + (c.toNat - '0'.toNat)) 0

/-- At least one digit, and at most `width`. -/
def readDigits (width : Nat) : PartReader Nat := fun cs =>
  let ds := (cs.take width).takeWhile Char.isDigit
  if ds = [] then none else some (numberOf ds, cs.drop ds.length)

/-- One or two digits after blanks. -/
def readField : PartReader Nat := fun cs => readDigits 2 (skipBlanks cs)

/-- A year after blanks. -/
def readYear : PartReader Int := fun cs =>
  match skipBlanks cs with
  | '-' :: rest => (readDigits rest.length rest).map fun (n, rest) => (-(n : Int), rest)
  | '+' :: rest => (readDigits rest.length rest).map fun (n, rest) => ((n : Int), rest)
  | rest => (readDigits 4 rest).map fun (n, rest) => ((n : Int), rest)

/-- A separator after blanks. -/
def readMark (mark : Char) (cs : List Char) : Option (List Char) :=
  match skipBlanks cs with
  | c :: rest => if c = mark then some rest else none
  | [] => none

/-- A date that the calendar has, between its first year and its last. -/
def readDate : PartReader Date := fun cs => do
  let (year, cs) ← readYear cs
  let cs ← readMark '-' cs
  let (month, cs) ← readField cs
  let cs ← readMark '-' cs
  let (day, cs) ← readField cs
  let date : Date := ⟨year, month, day⟩
  if 1 ≤ month && month ≤ 12 && 1 ≤ day && day ≤ daysInMonth year month
      && inCalendar (startOfDay date) then
    some (date, cs)
  else none

/-- A fraction of a second in nanoseconds, if there is one. -/
def readFraction : PartReader Nat := fun cs =>
  match cs with
  | '.' :: rest =>
    let ds := rest.takeWhile Char.isDigit
    if ds = [] then none
    else
      let kept := ds.take 9
      some (numberOf kept * Nat.pow 10 (9 - kept.length), rest.drop ds.length)
  | _ => some (0, cs)

/-- A time of day: its second, and the nanoseconds within it. The sixty-first second of a
minute belongs to the one before. -/
def readTime : PartReader (Nat × Nat) := fun cs => do
  let (hour, cs) ← readField cs
  let cs ← readMark ':' cs
  let (minute, cs) ← readField cs
  let cs ← readMark ':' cs
  let (second, cs) ← readField cs
  let (nanos, cs) ← readFraction cs
  if hour < 24 && minute < 60 && second ≤ 60 then
    let start := (hour * 60 + minute) * 60
    if second = 60 then some ((start + 59, Span.perSecond + nanos), cs)
    else some ((start + second, nanos), cs)
  else none

/-- Two digits. -/
def readPair : PartReader Nat := fun cs =>
  match cs with
  | a :: b :: rest =>
    if a.isDigit && b.isDigit then some (numberOf [a, b], rest) else none
  | _ => none

/-- The offset of local time from universal time, in seconds. -/
def readOffset : PartReader Int := fun cs =>
  match skipBlanks cs with
  | u :: t :: c :: rest =>
    if u.toUpper = 'U' && t.toUpper = 'T' && c.toUpper = 'C' then some (0, rest)
    else shifted (u :: t :: c :: rest)
  | cs => shifted cs
where
  shifted : PartReader Int := fun cs =>
    match cs with
    | 'Z' :: rest => some (0, rest)
    | 'z' :: rest => some (0, rest)
    | '+' :: rest => hoursAndMinutes 1 rest
    | '-' :: rest => hoursAndMinutes (-1) rest
    | '\u2212' :: rest => hoursAndMinutes (-1) rest
    | _ => none
  hoursAndMinutes (sign : Int) : PartReader Int := fun cs => do
    let (hours, cs) ← readPair cs
    let (minutes, cs) ← readPair (cs.dropWhile fun c => c = ':' || Text.isBlank c)
    if minutes < 60 && hours < 24 then some (sign * ((hours * 60 + minutes) * 60 : Nat), cs)
    else none

/-- The instant that a text gives. -/
def readChars (cs : List Char) : Option Instant := do
  let (date, cs) ← readDate cs
  let cs ← match cs with
    | c :: rest => if c = 't' || c = 'T' || c = ' ' then some rest else none
    | [] => none
  let ((second, fraction), cs) ← readTime cs
  let (offset, cs) ← readOffset cs
  let t : Instant := ⟨startOfDay date + second - offset, fraction⟩
  if skipBlanks cs = [] && inCalendar t.second then some t else none

def read (s : String) : Option Instant := readChars s.toList

end QueryGateway.Instant
