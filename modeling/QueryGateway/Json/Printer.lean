import QueryGateway.Json.Basic

/-! JSON text.

The compact form has no blanks. In a string only the quote, the backslash and the control
characters are escaped. A real number is written with the fewest digits that read back,
positionally while its point lies at most sixteen digits to the right of its first digit
and at most four zeros to the left, and always with a point or an exponent. -/
namespace QueryGateway.Json

/-! ### Numbers -/

/-- Decimal digits. -/
def digits (n : Nat) : List Char := Nat.toDigits 10 n

/-- A whole number. -/
def renderInt : Int → List Char
  | .ofNat n => digits n
  | .negSucc n => '-' :: digits (n + 1)

/-- The exponent of a real number, always with its sign. -/
def renderExponent (e : Int) : List Char := if 0 ≤ e then '+' :: renderInt e else renderInt e

/-- The decimal `c · 10 ^ unit`. -/
def renderDecimal (c : Nat) (unit : Int) : List Char :=
  let ds := digits c
  let point := (ds.length : Int) + unit
  if 0 ≤ unit && point ≤ 16 then ds ++ List.replicate unit.toNat '0' ++ ['.', '0']
  else if 0 < point && point ≤ 16 then ds.take point.toNat ++ '.' :: ds.drop point.toNat
  else if -5 < point && point ≤ 0 then
    ['0', '.'] ++ List.replicate (-point).toNat '0' ++ ds
  else
    ds.take 1 ++ (if ds.length = 1 then [] else '.' :: ds.drop 1) ++ 'e' ::
      renderExponent (point - 1)

/-- A real number; zero keeps its sign. -/
def renderReal (x : Binary64) : List Char :=
  let body :=
    if x.significand = 0 then ['0', '.', '0']
    else
      let (c, unit) := x.shortest
      renderDecimal c unit
  if x.negative then '-' :: body else body

def Number.render : Number → List Char
  | .whole n => renderInt n
  | .real x => renderReal x

/-! ### Strings -/

/-- A hexadecimal digit. -/
def hexDigit (n : Nat) : Char := (Nat.digitChar n)

/-- A character of a string, escaped if it has to be. -/
def escapeChar (c : Char) : List Char :=
  match c with
  | '"' => ['\\', '"']
  | '\\' => ['\\', '\\']
  | '\n' => ['\\', 'n']
  | '\r' => ['\\', 'r']
  | '\t' => ['\\', 't']
  | c =>
    if c.toNat = 8 then ['\\', 'b']
    else if c.toNat = 12 then ['\\', 'f']
    else if c.toNat < 32 then
      ['\\', 'u', '0', '0', hexDigit (c.toNat / 16), hexDigit (c.toNat % 16)]
    else [c]

/-- A string between its quotes. -/
def quote (s : String) : List Char := '"' :: (s.toList.flatMap escapeChar ++ ['"'])

/-! ### Values -/

mutual

/-- The compact form of a value. -/
def renderChars : Json → List Char
  | .null => ['n', 'u', 'l', 'l']
  | .bool true => ['t', 'r', 'u', 'e']
  | .bool false => ['f', 'a', 'l', 's', 'e']
  | .number n => n.render
  | .string s => quote s
  | .array items => '[' :: renderItems items
  | .object ms => '\x7b' :: renderMembers ms

/-- Items with the closing bracket. -/
def renderItems : List Json → List Char
  | [] => [']']
  | [v] => renderChars v ++ [']']
  | v :: rest => renderChars v ++ ',' :: renderItems rest

/-- Members with the closing brace. -/
def renderMembers : List (String × Json) → List Char
  | [] => ['\x7d']
  | [(k, v)] => quote k ++ ':' :: (renderChars v ++ ['\x7d'])
  | (k, v) :: rest => quote k ++ ':' :: (renderChars v ++ ',' :: renderMembers rest)

end

/-- The compact form of a value as text. -/
def render (v : Json) : String := String.ofList v.renderChars

/-! ### The form for people -/

/-- A line break and two blanks for each level. -/
def breakLine (level : Nat) : List Char := '\n' :: List.replicate (2 * level) ' '

mutual

/-- A value over several lines, its items and members one step further in. -/
def prettyChars (level : Nat) : Json → List Char
  | .null => ['n', 'u', 'l', 'l']
  | .bool true => ['t', 'r', 'u', 'e']
  | .bool false => ['f', 'a', 'l', 's', 'e']
  | .number n => n.render
  | .string s => quote s
  | .array [] => ['[', ']']
  | .array (v :: rest) => '[' :: prettyItems level (v :: rest)
  | .object [] => ['\x7b', '\x7d']
  | .object (m :: rest) => '\x7b' :: prettyMembers level (m :: rest)

/-- Items, each on a line of its own. -/
def prettyItems (level : Nat) : List Json → List Char
  | [] => [']']
  | [v] => breakLine (level + 1) ++ prettyChars (level + 1) v ++ breakLine level ++ [']']
  | v :: rest =>
    breakLine (level + 1) ++ prettyChars (level + 1) v ++ ',' :: prettyItems level rest

/-- Members, each on a line of its own. -/
def prettyMembers (level : Nat) : List (String × Json) → List Char
  | [] => ['\x7d']
  | [(k, v)] =>
    breakLine (level + 1) ++ quote k ++ ':' :: ' ' :: prettyChars (level + 1) v
      ++ breakLine level ++ ['\x7d']
  | (k, v) :: rest =>
    breakLine (level + 1) ++ quote k ++ ':' :: ' ' :: prettyChars (level + 1) v
      ++ ',' :: prettyMembers level rest

end

/-- The form of a value that people read. -/
def pretty (v : Json) : String := String.ofList (prettyChars 0 v)

end QueryGateway.Json
