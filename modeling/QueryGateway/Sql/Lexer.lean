import QueryGateway.Sql.Token
import QueryGateway.Text.Letter

/-! From text to lexemes.

`lex` skips white space and comments and cuts the rest into tokens, always the longest
that fits. It has no answer when a string, a quoted identifier or a comment is left
open, when an escape is malformed, or when operator characters make no operator.

Each reader below takes the text after the characters that chose it and gives back
what is left. -/
namespace QueryGateway.Sql.Lexer

/-! ### Character classes -/

/-- Every character outside ASCII may stand in a word. -/
def startsWord (c : Char) : Bool := c.isAlpha || c == '_' || c.toNat ≥ 128

def continuesWord (c : Char) : Bool := startsWord c || c.isDigit || c == '$'

/-- The blanks between tokens; blanks outside ASCII are letters here. -/
def isSpace (c : Char) : Bool :=
  c == ' ' || c == '\t' || c == '\n' || c == '\r' || c == '\x0b' || c == '\x0c'

def isHex (c : Char) : Bool :=
  c.isDigit || ('a' ≤ c && c ≤ 'f') || ('A' ≤ c && c ≤ 'F')

def isOctal (c : Char) : Bool := '0' ≤ c && c ≤ '7'

/-- The characters that run together into an operator of the user's own. -/
def isOperatorPart (c : Char) : Bool :=
  "+-*/<>=~!@#%^&|\x60?".toList.contains c

/-- The value of a digit in a base up to sixteen. -/
def digitValue (c : Char) : Nat :=
  if c.isDigit then c.toNat - '0'.toNat
  else if 'a' ≤ c && c ≤ 'f' then c.toNat - 'a'.toNat + 10
  else c.toNat - 'A'.toNat + 10

def numeral (base : Nat) (cs : List Char) : Nat :=
  cs.foldl (fun n c => n * base + digitValue c) 0

/-! ### Comments -/

/-- What follows a comment that runs to the end of the line. -/
def afterLineComment : List Char → List Char
  | [] => []
  | '\n' :: rest => rest
  | '\r' :: rest => rest
  | _ :: rest => afterLineComment rest

/-- What follows a comment that is `depth` levels deep; comments nest. -/
def afterBlockComment : Nat → List Char → Option (List Char)
  | _, [] => none
  | depth, '/' :: '*' :: rest => afterBlockComment (depth + 1) rest
  | depth, '*' :: '/' :: rest =>
    if depth ≤ 1 then some rest else afterBlockComment (depth - 1) rest
  | depth, _ :: rest => afterBlockComment depth rest

/-! ### Quoted text -/

/-- Text up to a closing quote, which is written twice to stand for itself; `seen` is
the text so far, last character first. -/
def untilQuote (quote : Char) (seen : List Char) : List Char → Option (List Char × List Char)
  | [] => none
  | [c] => if c = quote then some (seen.reverse, []) else none
  | c :: d :: rest =>
    if c = quote then
      if d = quote then untilQuote quote (quote :: seen) rest
      else some (seen.reverse, d :: rest)
    else untilQuote quote (c :: seen) (d :: rest)

/-- Text up to a closing quote where a backslash takes the character after it along. -/
def untilBareQuote (seen : List Char) : List Char → Option (List Char × List Char)
  | [] => none
  | ['\''] => some (seen.reverse, [])
  | [_] => none
  | '\'' :: '\'' :: rest => untilBareQuote ('\'' :: seen) rest
  | '\'' :: d :: rest => some (seen.reverse, d :: rest)
  | '\\' :: d :: rest => untilBareQuote (d :: seen) rest
  | c :: d :: rest => untilBareQuote (c :: seen) (d :: rest)

/-- The character of a code point, if there is one. -/
def character? (code : Nat) : Option Char :=
  if h : code.isValidChar then some (Char.ofNatAux code h) else none

/-- The character of a byte escape: only its low eight bits count, and they must make an
ASCII character. -/
def byteCharacter? (code : Nat) : Option Char :=
  if code % 256 < 128 then character? (code % 256) else none

/-- The value of hexadecimal digits, all of the text; a plus sign may lead them. -/
def hexValue? (cs : List Char) : Option Nat :=
  let digits := match cs with
    | '+' :: rest => rest
    | _ => cs
  if !digits.isEmpty && digits.all isHex then some (numeral 16 digits) else none

/-- The character that an escape stands for, read after its backslash. -/
def escape : List Char → Option (Char × List Char)
  | [] => none
  | 'b' :: rest => some ('\x08', rest)
  | 'f' :: rest => some ('\x0c', rest)
  | 'n' :: rest => some ('\n', rest)
  | 'r' :: rest => some ('\r', rest)
  | 't' :: rest => some ('\t', rest)
  | 'u' :: rest => codePoint 4 rest
  | 'U' :: rest => codePoint 8 rest
  | 'x' :: rest =>
    let digits := (rest.take 2).takeWhile isHex
    if digits.isEmpty then some ('x', rest)
    else (byteCharacter? (numeral 16 digits)).map fun c => (c, rest.drop digits.length)
  | c :: rest =>
    if isOctal c then
      let more := (rest.take 2).takeWhile isOctal
      (byteCharacter? (numeral 8 (c :: more))).map fun c => (c, rest.drop more.length)
    else some (c, rest)
where
  codePoint (width : Nat) (rest : List Char) : Option (Char × List Char) :=
    if (rest.take width).length = width then
      ((hexValue? (rest.take width)).bind character?).map fun c => (c, rest.drop width)
    else none

/-- A string with backslash escapes, none of which may stand for NUL. -/
def escapedString : Nat → List Char → List Char → Option (List Char × List Char)
  | 0, _, _ => none
  | _, _, [] => none
  | n + 1, seen, '\'' :: rest =>
    match rest with
    | '\'' :: rest => escapedString n ('\'' :: seen) rest
    | _ => some (seen.reverse, rest)
  | n + 1, seen, '\\' :: rest => do
    let (c, rest) ← escape rest
    if c = '\x00' then none else escapedString n (c :: seen) rest
  | n + 1, seen, c :: rest => escapedString n (c :: seen) rest

/-- A string with Unicode escapes. -/
def unicodeString : Nat → List Char → List Char → Option (List Char × List Char)
  | 0, _, _ => none
  | _, _, [] => none
  | n + 1, seen, '\'' :: rest =>
    match rest with
    | '\'' :: rest => unicodeString n ('\'' :: seen) rest
    | _ => some (seen.reverse, rest)
  | n + 1, seen, '\\' :: rest =>
    match rest with
    | '\\' :: rest => unicodeString n ('\\' :: seen) rest
    | '+' :: rest => do
      let c ← codePoint 6 rest
      unicodeString n (c :: seen) (rest.drop 6)
    | _ => do
      let c ← codePoint 4 rest
      unicodeString n (c :: seen) (rest.drop 4)
  | n + 1, seen, c :: rest => unicodeString n (c :: seen) rest
where
  codePoint (width : Nat) (rest : List Char) : Option Char :=
    let digits := rest.take width
    if digits.length = width && digits.all isHex then character? (numeral 16 digits) else none

/-- The text before the first occurrence of `mark`, and what follows the mark. -/
def untilMark (mark : List Char) (seen : List Char) : List Char → Option (List Char × List Char)
  | [] => if mark.isEmpty then some (seen.reverse, []) else none
  | c :: rest =>
    if mark.isPrefixOf (c :: rest) then some (seen.reverse, (c :: rest).drop mark.length)
    else untilMark mark (c :: seen) rest

/-- A dollar sign opens a dollar-quoted string when its tag ends in another one, and is
a placeholder otherwise. -/
def dollar (rest : List Char) : Option (Token × List Char) :=
  let tag := rest.takeWhile fun c => Text.isAlphanumeric c || c == '_'
  match rest.drop tag.length with
  | '$' :: body =>
    (untilMark ('$' :: tag ++ ['$']) [] body).map fun (text, left) =>
      (.string .dollar (String.ofList text), left)
  | left => some (.placeholder (String.ofList tag), left)

/-! ### Numbers -/

/-- Digits, single underscores between them allowed. -/
def takeDigits : List Char → List Char
  | [] => []
  | c :: rest =>
    if c.isDigit then c :: takeDigits rest
    else if c == '_' && (rest.head?.map isHex).getD false then c :: takeDigits rest
    else []

/-- An exponent, if a complete one follows. -/
def takeExponent (cs : List Char) : List Char :=
  match cs with
  | e :: rest =>
    if e == 'e' || e == 'E' then
      let sign := (rest.take 1).filter fun c => c == '+' || c == '-'
      let digits := (rest.drop sign.length).takeWhile Char.isDigit
      if digits.isEmpty then [] else e :: sign ++ digits
    else []
  | [] => []

/-- Hexadecimal digits, single underscores between them allowed. -/
def takeHexDigits : List Char → List Char
  | [] => []
  | c :: rest =>
    if isHex c then c :: takeHexDigits rest
    else if c == '_' && (rest.head?.map isHex).getD false then c :: takeHexDigits rest
    else []

/-- A number, or the dot that is not one. An underscore after a dot belongs to a name and
is allowed only right after a word. -/
def number (afterWord : Bool) (cs : List Char) : Option (Token × List Char) :=
  match cs with
  | '.' :: '_' :: rest => if afterWord then some (.symbol .dot, '_' :: rest) else none
  | _ =>
    let whole := takeDigits cs
    let left := cs.drop whole.length
    match whole, left with
    | ['0'], 'x' :: rest =>
      let digits := takeHexDigits rest
      some (.string .hexadecimal (String.ofList digits), rest.drop digits.length)
    | _, _ =>
      let point := left.take 1 |>.filter (· == '.')
      let left := left.drop point.length
      let fraction := takeDigits left
      let left := left.drop fraction.length
      let digits := whole ++ point ++ fraction
      if digits = ['.'] then some (.symbol .dot, left)
      else
        let exponent := takeExponent left
        let left := left.drop exponent.length
        let long := left.head? == some 'L'
        some (.number (String.ofList (digits ++ exponent)) long, if long then left.drop 1 else left)

/-! ### Operators -/

/-- Further operator characters join `start` into an operator of its own; alone it is
`plain`, or nothing at all. -/
def joined (start : String) (plain : Option Symbol) (rest : List Char) :
    Option (Token × List Char) :=
  let more := rest.takeWhile isOperatorPart
  if more.isEmpty then plain.map fun s => (.symbol s, rest)
  else some (.symbol (.operator (start ++ String.ofList more)), rest.drop more.length)

/-- An operator that is itself when nothing joins it. -/
private def extensible (text : String) (rest : List Char) : Option (Token × List Char) :=
  joined text (some (.operator text)) rest

private def fixed (text : String) (rest : List Char) : Option (Token × List Char) :=
  some (.symbol (.operator text), rest)

/-- An operator that takes the character after it along, whatever it is. -/
private def greedy (text : String) (rest : List Char) : Option (Token × List Char) :=
  fixed text (rest.drop 1)

private def mark (s : Symbol) (rest : List Char) : Option (Token × List Char) :=
  some (.symbol s, rest)

/-- The operator or punctuation mark at the start of the text; a character that starts
none is a stray. -/
def punctuation : List Char → Option (Token × List Char)
  | '(' :: r => some (.opening .round, r)
  | ')' :: r => some (.closing .round, r)
  | '[' :: r => some (.opening .square, r)
  | ']' :: r => some (.closing .square, r)
  | '{' :: r => some (.opening .curly, r)
  | '}' :: r => some (.closing .curly, r)
  | ',' :: r => mark .comma r
  | ';' :: r => mark .semicolon r
  | '-' :: '>' :: '>' :: r => extensible "->>" r
  | '-' :: '>' :: r => extensible "->" r
  | '-' :: r => joined "-" (some .minus) r
  | '/' :: r => fixed "/" r
  | '+' :: r => mark .plus r
  | '*' :: r => mark .star r
  | '%' :: c :: r => if isSpace c then fixed "%" (c :: r) else extensible "%" (c :: r)
  | '%' :: r => fixed "%" r
  | '|' :: '/' :: r => extensible "|/" r
  | '|' :: '|' :: '/' :: r => extensible "||/" r
  | '|' :: '|' :: r => extensible "||" r
  | '|' :: '&' :: '>' :: r => extensible "|&>" r
  | '|' :: '&' :: r => joined "|&" none r
  | '|' :: '>' :: '>' :: r => extensible "|>>" r
  | '|' :: '>' :: r => joined "|>" none r
  | '|' :: r => extensible "|" r
  | '=' :: '>' :: r => mark .fatArrow r
  | '=' :: '=' :: r => fixed "==" r
  | '=' :: r => mark .equal r
  | '!' :: '=' :: r => fixed "!=" r
  | '!' :: '!' :: r => fixed "!!" r
  | '!' :: '~' :: '*' :: r => fixed "!~*" r
  | '!' :: '~' :: '~' :: '*' :: r => fixed "!~~*" r
  | '!' :: '~' :: '~' :: r => fixed "!~~" r
  | '!' :: '~' :: r => fixed "!~" r
  | '!' :: r => mark .bang r
  | '<' :: '=' :: '>' :: r => extensible "<=>" r
  | '<' :: '=' :: r => extensible "<=" r
  | '<' :: '>' :: r => extensible "<>" r
  | '<' :: '|' :: r => extensible "<<|" r
  | '<' :: '<' :: r => extensible "<<" r
  | '<' :: '-' :: '>' :: r => extensible "<->" r
  | '<' :: '-' :: r => joined "<-" none r
  | '<' :: '^' :: r => extensible "<^" r
  | '<' :: '@' :: r => extensible "<@" r
  | '<' :: r => extensible "<" r
  | '>' :: '=' :: r => extensible ">=" r
  | '>' :: '>' :: r => extensible ">>" r
  | '>' :: '^' :: r => extensible ">^" r
  | '>' :: r => extensible ">" r
  | ':' :: ':' :: r => mark .doubleColon r
  | ':' :: '=' :: r => mark .assign r
  | ':' :: r => mark .colon r
  | '&' :: '>' :: r => greedy "&>" r
  | '&' :: '<' :: '|' :: r => fixed "&<|" r
  | '&' :: '<' :: r => extensible "&<" r
  | '&' :: '&' :: r => extensible "&&" r
  | '&' :: r => extensible "&" r
  | '^' :: '@' :: r => fixed "^@" r
  | '^' :: r => fixed "^" r
  | '~' :: '*' :: r => extensible "~*" r
  | '~' :: '=' :: r => extensible "~=" r
  | '~' :: '~' :: '*' :: r => extensible "~~*" r
  | '~' :: '~' :: r => extensible "~~" r
  | '~' :: r => joined "~" (some .tilde) r
  | '#' :: '-' :: r => extensible "#-" r
  | '#' :: '>' :: '>' :: r => extensible "#>>" r
  | '#' :: '>' :: r => extensible "#>" r
  | '#' :: '#' :: r => extensible "##" r
  | '#' :: r => extensible "#" r
  | '@' :: '@' :: r => fixed "@@" r
  | '@' :: '-' :: '@' :: r => fixed "@-@" r
  | '@' :: '-' :: r => joined "@-" none r
  | '@' :: '>' :: r => fixed "@>" r
  | '@' :: '?' :: r => fixed "@?" r
  | '@' :: r => fixed "@" r
  | '?' :: '|' :: '|' :: r => fixed "?||" r
  | '?' :: '|' :: r => fixed "?|" r
  | '?' :: '&' :: r => fixed "?&" r
  | '?' :: '-' :: '|' :: r => fixed "?-|" r
  | '?' :: '-' :: r => fixed "?-" r
  | '?' :: '#' :: r => fixed "?#" r
  | '?' :: r => greedy "?" r
  | c :: r => some (.stray c, r)
  | [] => none

/-! ### Tokens -/

/-- An unquoted word whose first character is `c`. -/
def word (c : Char) (rest : List Char) : Token × List Char :=
  let more := rest.takeWhile continuesWord
  (.word (Word.bare (c :: more)), rest.drop more.length)

/-- The string constant that a letter right before a quote introduces, if it is one. -/
def introduced (c : Char) (rest : List Char) : Option (Option (Token × List Char)) :=
  let constant := fun (how : Writing) (found : Option (List Char × List Char)) =>
    some (found.map fun (text, left) => (.string how (String.ofList text), left))
  match c.toLower, rest with
  | 'b', '\'' :: body => constant .bits (untilQuote '\'' [] body)
  | 'b', '"' :: body => constant .bits (untilQuote '"' [] body)
  | 'n', '\'' :: body => constant .national (untilQuote '\'' [] body)
  | 'x', '\'' :: body => constant .hexadecimal (untilBareQuote [] body)
  | 'e', '\'' :: body => constant .escaped (escapedString (body.length + 1) [] body)
  | 'u', '&' :: '\'' :: body => constant .unicode (unicodeString (body.length + 1) [] body)
  | _, _ => none

/-- One token and what follows it; `none` in place of the token stands for a comment or
white space. -/
def step (afterWord : Bool) : List Char → Option (Option Token × List Char)
  | [] => none
  | '-' :: '-' :: rest => some (none, afterLineComment rest)
  | '/' :: '*' :: rest => (afterBlockComment 1 rest).map fun left => (none, left)
  | '\'' :: rest =>
    (untilQuote '\'' [] rest).map fun (text, left) =>
      (some (.string .plain (String.ofList text)), left)
  | '"' :: rest =>
    (untilQuote '"' [] rest).map fun (text, left) => (some (.word (Word.delimited text)), left)
  | '$' :: rest => (dollar rest).map fun (t, left) => (some t, left)
  | c :: rest =>
    if isSpace c then some (none, rest)
    else if c.isDigit || c == '.' then
      (number afterWord (c :: rest)).map fun (t, left) => (some t, left)
    else if startsWord c then
      match introduced c rest with
      | some found => found.map fun (t, left) => (some t, left)
      | none => let (t, left) := word c rest; some (some t, left)
    else (punctuation (c :: rest)).map fun (t, left) => (some t, left)

/-- Whether a token is a word, which decides how a dot before an underscore reads. -/
def isWord : Option Token → Bool
  | some (.word _) => true
  | _ => false

/-- At most `fuel` tokens. `previous` is what the last step gave. -/
def lexemes : Nat → Option Token → List Char → Option (List Lexeme)
  | _, _, [] => some []
  | 0, _, _ :: _ => none
  | fuel + 1, previous, cs =>
    match step (isWord previous) cs with
    | none => none
    | some (none, rest) => lexemes fuel none rest
    | some (some t, rest) =>
      (lexemes fuel (some t) rest).map fun ls => ⟨t, previous.isNone⟩ :: ls

end Lexer

/-- The lexemes of a text. Every step takes at least one character, so the length of the
text bounds their number. -/
def lex (cs : List Char) : Option (List Lexeme) := Lexer.lexemes cs.length none cs

end QueryGateway.Sql
