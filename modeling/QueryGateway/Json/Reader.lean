import QueryGateway.Json.Basic

/-! Reading JSON text.

Exactly one value is read, with blanks around it. Arrays and objects may be nested 127
deep. The last of equal keys in an object wins. An escape that is half of a surrogate
pair without its other half, a control character in a string, and a number too large to
be finite are errors. -/
namespace QueryGateway.Json

/-- A blank between tokens. -/
def isGap (c : Char) : Bool := c = ' ' || c = '\n' || c = '\t' || c = '\r'

/-- Text without the blanks before it. -/
def skipGaps (cs : List Char) : List Char := cs.dropWhile isGap

/-! ### Strings -/

/-- The value of a hexadecimal digit in either case. -/
def hexValue? (c : Char) : Option Nat :=
  if '0' ≤ c && c ≤ '9' then some (c.toNat - '0'.toNat)
  else if 'a' ≤ c && c ≤ 'f' then some (c.toNat - 'a'.toNat + 10)
  else if 'A' ≤ c && c ≤ 'F' then some (c.toNat - 'A'.toNat + 10)
  else none

/-- The value of four hexadecimal digits. -/
def hexFour? (a b c d : Char) : Option Nat := do
  return (((← hexValue? a) * 16 + (← hexValue? b)) * 16 + (← hexValue? c)) * 16 + (← hexValue? d)

def isHighSurrogate (n : Nat) : Bool := 0xD800 ≤ n && n < 0xDC00

def isLowSurrogate (n : Nat) : Bool := 0xDC00 ≤ n && n < 0xE000

/-- The character of a surrogate pair. -/
def pairedChar (high low : Nat) : Char :=
  Char.ofNat (0x10000 + (high - 0xD800) * 0x400 + (low - 0xDC00))

/-- What a one-letter escape stands for. -/
def escaped? (c : Char) : Option Char :=
  match c with
  | '"' => some '"'
  | '\\' => some '\\'
  | '/' => some '/'
  | 'b' => some '\x08'
  | 'f' => some '\x0c'
  | 'n' => some '\n'
  | 'r' => some '\r'
  | 't' => some '\t'
  | _ => none

/-- The characters of a string after its opening quote, and the text after it. -/
def readChars : List Char → Option (List Char × List Char)
  | '"' :: rest => some ([], rest)
  | '\\' :: 'u' :: a :: b :: c :: d :: '\\' :: 'u' :: e :: f :: g :: h :: rest =>
    match hexFour? a b c d with
    | none => none
    | some high =>
      if isHighSurrogate high then
        match hexFour? e f g h with
        | none => none
        | some low =>
          if isLowSurrogate low then
            (readChars rest).map fun (cs, rest) => (pairedChar high low :: cs, rest)
          else none
      else if isLowSurrogate high then none
      else
        (readChars ('\\' :: 'u' :: e :: f :: g :: h :: rest)).map
          fun (cs, rest) => (Char.ofNat high :: cs, rest)
  | '\\' :: 'u' :: a :: b :: c :: d :: rest =>
    match hexFour? a b c d with
    | none => none
    | some n =>
      if isHighSurrogate n || isLowSurrogate n then none
      else (readChars rest).map fun (cs, rest) => (Char.ofNat n :: cs, rest)
  | '\\' :: c :: rest =>
    match escaped? c with
    | none => none
    | some c => (readChars rest).map fun (cs, rest) => (c :: cs, rest)
  | c :: rest =>
    if c.toNat < 32 || c = '\\' then none
    else (readChars rest).map fun (cs, rest) => (c :: cs, rest)
  | [] => none

/-! ### Numbers -/

/-- The greatest number of an exponent's digits. -/
def exponentLimit : Nat := Nat.pow 2 31 - 1

/-- What has been gathered of a number's digits: as many of them as 64 bits hold, and the
power of ten to scale them by. Once a digit did not fit, `full` says so. -/
structure Gathered where
  significand : Nat
  scale : Int
  full : Bool

def digitValue (c : Char) : Nat := c.toNat - '0'.toNat

/-- The digits before the point: one that does not fit only scales the number. -/
def Gathered.whole (g : Gathered) (c : Char) : Gathered :=
  let n := g.significand * 10 + digitValue c
  if g.full || Nat.pow 2 64 ≤ n then { g with scale := g.scale + 1, full := true }
  else { g with significand := n }

/-- The digits behind the point: one that does not fit counts for nothing. -/
def Gathered.fraction (g : Gathered) (c : Char) : Gathered :=
  let n := g.significand * 10 + digitValue c
  if g.full || Nat.pow 2 64 ≤ n then { g with full := true }
  else { g with significand := n, scale := g.scale - 1 }

/-- A number scaled by a power of ten, in steps that are powers of the format; zero stays
zero, and a number that grows out of the format is an error. -/
def scaled : (fuel : Nat) → Binary64 → Int → Option Binary64
  | 0, _, _ => some .zero
  | fuel + 1, x, e =>
    if x.significand = 0 then some x
    else if 308 < e then none
    else if 0 ≤ e then x.mul (.powerOfTen e.toNat)
    else if -308 ≤ e then x.div (.powerOfTen (-e).toNat)
    else
      match x.div (.powerOfTen 308) with
      | none => none
      | some y => scaled fuel y (e + 308)

/-- The real number of gathered digits and an exponent. -/
def realOf (negative : Bool) (g : Gathered) (exponentNegative : Bool) (exponent : List Char) :
    Option Number :=
  let e := exponent.foldl (fun n c => n * 10 + digitValue c) 0
  if exponentLimit < e then
    if g.significand ≠ 0 && !exponentNegative then none else some (.real ⟨negative, 0, 0⟩)
  else do
    let x ← Binary64.ofNat g.significand
    let x ← scaled 8 x (if exponentNegative then g.scale - e else g.scale + e)
    return .real (x.signed negative)

/-- A number after its sign, and the text after it. -/
def readUnsigned (negative : Bool) (cs : List Char) : Option (Number × List Char) :=
  let whole := cs.takeWhile Char.isDigit
  let rest := cs.dropWhile Char.isDigit
  if whole = [] || (whole.head? = some '0' && 1 < whole.length) then none
  else
    let g := whole.foldl Gathered.whole ⟨0, 0, false⟩
    let exponentOf (g : Gathered) (rest : List Char) : Option (Number × List Char) :=
      match rest with
      | c :: rest =>
        if c = 'e' || c = 'E' then
          let (minus, rest) := match rest with
            | '+' :: rest => (false, rest)
            | '-' :: rest => (true, rest)
            | rest => (false, rest)
          let ds := rest.takeWhile Char.isDigit
          if ds = [] then none
          else (realOf negative g minus ds).map (·, rest.dropWhile Char.isDigit)
        else (realOf negative g false []).map (·, c :: rest)
      | [] => (realOf negative g false []).map (·, [])
    match rest with
    | '.' :: behind =>
      let ds := behind.takeWhile Char.isDigit
      if ds = [] then none
      else
        let start := if g.full then { g with full := false } else g
        exponentOf (ds.foldl Gathered.fraction start) (behind.dropWhile Char.isDigit)
    | c :: _ =>
      if c = 'e' || c = 'E' || g.full then exponentOf g rest else some (plain g.significand, rest)
    | [] => if g.full then exponentOf g [] else some (plain g.significand, [])
where
  /-- A number without a point or an exponent: a negative one is whole down to the least
  number of 64 bits, zero apart. -/
  plain (n : Nat) : Number :=
    if !negative then .whole n
    else if n = 0 || Nat.pow 2 63 < n then .real (((Binary64.ofNat n).getD .zero).signed true)
    else .whole (-n)

/-! ### Values -/

/-- Removes a word from the front of a text. -/
def dropWord : (word : List Char) → List Char → Option (List Char)
  | [], cs => some cs
  | w :: ws, c :: cs => if w = c then dropWord ws cs else none
  | _ :: _, [] => none

/-- The items of an array up to its closing bracket, read by `item`. -/
def readItems (item : List Char → Option (Json × List Char)) :
    (fuel : Nat) → List Char → Option (List Json × List Char)
  | 0, _ => none
  | fuel + 1, cs =>
    match item cs with
    | none => none
    | some (v, rest) =>
      match skipGaps rest with
      | ',' :: rest => (readItems item fuel rest).map fun (vs, rest) => (v :: vs, rest)
      | ']' :: rest => some ([v], rest)
      | _ => none

/-- A member of an object, its value read by `item`. -/
def readMember (item : List Char → Option (Json × List Char)) (cs : List Char) :
    Option ((String × Json) × List Char) :=
  match skipGaps cs with
  | '"' :: rest =>
    match readChars rest with
    | none => none
    | some (key, rest) =>
      match skipGaps rest with
      | ':' :: rest => (item rest).map fun (v, rest) => ((String.ofList key, v), rest)
      | _ => none
  | _ => none

/-- The members of an object up to its closing brace, in the order of the text. -/
def readMembers (item : List Char → Option (Json × List Char)) :
    (fuel : Nat) → List Char → Option (List (String × Json) × List Char)
  | 0, _ => none
  | fuel + 1, cs =>
    match readMember item cs with
    | none => none
    | some (m, rest) =>
      match skipGaps rest with
      | ',' :: rest => (readMembers item fuel rest).map fun (ms, rest) => (m :: ms, rest)
      | '\x7d' :: rest => some ([m], rest)
      | _ => none

/-- A value with at most `depth` levels of arrays and objects, and the text after it. -/
def readValue : (depth : Nat) → List Char → Option (Json × List Char)
  | depth, cs =>
    match skipGaps cs with
    | 'n' :: rest => (dropWord ['u', 'l', 'l'] rest).map (Json.null, ·)
    | 't' :: rest => (dropWord ['r', 'u', 'e'] rest).map (Json.bool true, ·)
    | 'f' :: rest => (dropWord ['a', 'l', 's', 'e'] rest).map (Json.bool false, ·)
    | '"' :: rest => (readChars rest).map fun (s, rest) => (.string (String.ofList s), rest)
    | '-' :: rest => (readUnsigned true rest).map fun (n, rest) => (.number n, rest)
    | '[' :: rest =>
      match depth with
      | 0 => none
      | depth + 1 =>
        match skipGaps rest with
        | ']' :: rest => some (.array [], rest)
        | _ =>
          (readItems (readValue depth) (rest.length + 1) rest).map
            fun (vs, rest) => (.array vs, rest)
    | '\x7b' :: rest =>
      match depth with
      | 0 => none
      | depth + 1 =>
        match skipGaps rest with
        | '\x7d' :: rest => some (.object [], rest)
        | _ =>
          (readMembers (readValue depth) (rest.length + 1) rest).map
            fun (ms, rest) => (ofMembers ms, rest)
    | cs => (readUnsigned false cs).map fun (n, rest) => (.number n, rest)

/-- How deep arrays and objects may be nested. -/
def nestingLimit : Nat := 127

/-- The value that a text holds. -/
def readText (cs : List Char) : Option Json :=
  match readValue nestingLimit cs with
  | some (v, rest) => if skipGaps rest = [] then some v else none
  | none => none

/-- The members of the object that a text holds, in the order of the text, a key as often
as it is written. -/
def readObjectText (cs : List Char) : Option (List (String × Json)) :=
  match skipGaps cs with
  | '\x7b' :: rest =>
    match skipGaps rest with
    | '\x7d' :: rest => if skipGaps rest = [] then some [] else none
    | _ =>
      match readMembers (readValue (nestingLimit - 1)) (rest.length + 1) rest with
      | some (ms, rest) => if skipGaps rest = [] then some ms else none
      | none => none
  | _ => none

/-- The value that a string holds. -/
def read (s : String) : Option Json := readText s.toList

end QueryGateway.Json
