import QueryGateway.Sql.Phrase

/-! The vocabulary in which the grammar is written: keywords, marks, lists, names and
literals. -/
namespace QueryGateway.Sql.Grammar

open Phrase

/-! ### What comes next -/

/-- The next token. -/
def next? (ls : List Lexeme) : Option Token := ls.head?.map (·.token)

/-- The keyword that the next token spells. -/
def nextKeyword (ls : List Lexeme) : Option Keyword := (next? ls).bind Token.keyword

/-- Whether the next token spells the keyword. -/
def spells (k : Keyword) (ls : List Lexeme) : Bool := nextKeyword ls == some k

/-- Whether the next token spells one of the keywords. -/
def spellsAny (ks : List Keyword) (ls : List Lexeme) : Bool := ks.any (spells · ls)

/-- Whether the tokens to come spell the keywords. -/
def spellsAll : List Keyword → List Lexeme → Bool
  | [], _ => true
  | k :: ks, ls => spells k ls && spellsAll ks (ls.drop 1)

/-- Whether the next token is the mark. -/
def marks (s : Symbol) (ls : List Lexeme) : Bool := next? ls == some (.symbol s)

/-- Whether a bracket of this kind opens next. -/
def opens (b : Bracket) (ls : List Lexeme) : Bool := next? ls == some (.opening b)

/-- Whether a bracket of this kind closes next. -/
def closes (b : Bracket) (ls : List Lexeme) : Bool := next? ls == some (.closing b)

/-- The bracket that opens next, if one does. -/
def opened? (ls : List Lexeme) : Option Bracket :=
  match next? ls with
  | some (.opening b) => some b
  | _ => none

/-- Whether a word comes next. -/
def startsWord : List Lexeme → Bool
  | ⟨.word _, _⟩ :: _ => true
  | _ => false

/-- Whether a string in plain single quotes comes next. -/
def startsString : List Lexeme → Bool
  | ⟨.string .plain _, _⟩ :: _ => true
  | _ => false

/-- Whether the statement ends here. -/
def endsHere (ls : List Lexeme) : Bool := ls.isEmpty || marks .semicolon ls

/-! ### Single tokens -/

/-- A token that `f` accepts. -/
def token {α} (f : Token → Option α) : Phrase α := .one fun l => f l.token

/-- A token, whatever it is. -/
def anything : Phrase Unit := .one fun _ => some ()

/-- A token, whatever it is, unless the text has ended. -/
def skip : Phrase Unit := do
  let _ ← attempt anything

/-- The keyword. -/
def expect (k : Keyword) : Phrase Unit :=
  token fun t => if t.keyword = some k then some () else none

/-- The keywords, one after the other. -/
def expectAll : List Keyword → Phrase Unit
  | [] => .give ()
  | k :: ks => do expect k; expectAll ks

/-- Takes the keyword if it comes next. -/
def has (k : Keyword) : Phrase Bool := do return (← attempt (expect k)).isSome

/-- Takes the keywords if they all come next. -/
def hasAll (ks : List Keyword) : Phrase Bool := do return (← attempt (expectAll ks)).isSome

/-- Takes the keywords if they all come next, and goes on either way. -/
def skipAll (ks : List Keyword) : Phrase Unit := do
  let _ ← hasAll ks

/-- One of the keywords. -/
def anyOf (ks : List Keyword) : Phrase Keyword :=
  token fun t => t.keyword.bind fun k => if ks.contains k then some k else none

/-- Takes one of the keywords if one comes next. -/
def hasAny (ks : List Keyword) : Phrase (Option Keyword) := attempt (anyOf ks)

/-- Takes one of the keywords if one comes next, whichever it is. -/
def skipAny (ks : List Keyword) : Phrase Unit := do
  let _ ← hasAny ks

/-- Takes the first row of keywords that comes next in full; whether there was one. -/
def hasOneOf : List (List Keyword) → Phrase Bool
  | [] => .give false
  | ks :: more => do if ← hasAll ks then return true else hasOneOf more

/-- The mark. -/
def mark (s : Symbol) : Phrase Unit :=
  token fun t => if t = .symbol s then some () else none

/-- Takes the mark if it comes next. -/
def hasMark (s : Symbol) : Phrase Bool := do return (← attempt (mark s)).isSome

/-- An opening bracket. -/
def opening (b : Bracket) : Phrase Unit :=
  token fun t => if t = .opening b then some () else none

/-- A closing bracket. -/
def closing (b : Bracket) : Phrase Unit :=
  token fun t => if t = .closing b then some () else none

/-- Takes a closing bracket if it comes next. -/
def hasClosing (b : Bracket) : Phrase Bool := do return (← attempt (closing b)).isSome

/-! ### Repetition -/

/-- As many as there are. -/
def many {α} (p : Phrase α) : Phrase (List α) := do
  let found ← loop ([] : List α) fun found => do
    return (← attempt p).map (· :: found)
  return found.reverse

/-- As many as `p` gives before it gives nothing. -/
def series {α} (p : Phrase (Option α)) : Phrase (List α) := do
  let found ← loop ([] : List α) fun found => do return (← p).map (· :: found)
  return found.reverse

/-- One or more, each but the first behind what `between` takes. -/
def separated {α} (between : Phrase Bool) (p : Phrase α) : Phrase (List α) := do
  let first ← p
  let more ← series (do if ← between then return some (← p) else return none)
  return first :: more

/-- One or more, with commas between them. -/
def list {α} (p : Phrase α) : Phrase (List α) := separated (hasMark .comma) p

/-- A list, empty if the bracket around it closes here. -/
def listOrNone {α} (b : Bracket) (p : Phrase α) : Phrase (List α) := do
  if ← ahead (closes b) then return [] else list p

/-- In round brackets. -/
def paren {α} (p : Phrase α) : Phrase α := do
  opening .round
  let a ← p
  closing .round
  return a

/-- In round brackets, or nothing. -/
def parenIfAny {α} (p : Phrase α) : Phrase (Option α) := do
  if ← ahead (opens .round) then return some (← paren p) else return none

/-- A list in round brackets. -/
def parenList {α} (p : Phrase α) : Phrase (List α) := paren (list p)

/-- A list in round brackets, possibly empty. -/
def parenListOrNone {α} (p : Phrase α) : Phrase (List α) := paren (listOrNone .round p)

/-- What `p` gives after the keyword, or nothing. -/
def after {α} (k : Keyword) (p : Phrase (List α)) : Phrase (List α) := do
  if ← has k then p else return []

/-- What `p` gives after the keywords, or nothing. -/
def afterAll {α} (ks : List Keyword) (p : Phrase (List α)) : Phrase (List α) := do
  if ← hasAll ks then p else return []

/-- What `p` reads after the keyword, or nothing; it is not kept. -/
def aside {α} (k : Keyword) (p : Phrase α) : Phrase Unit := do
  if ← has k then
    let _ ← p

/-- What `p` reads after the keywords, or nothing; it is not kept. -/
def asideAll {α} (ks : List Keyword) (p : Phrase α) : Phrase Unit := do
  if ← hasAll ks then
    let _ ← p

/-- A `p`, not kept. -/
def unkept {α} (p : Phrase α) : Phrase Unit := do
  let _ ← p

/-- The first of the alternatives that comes next, with its place in the row; the places in
`used` are passed over. -/
def firstUnused {α} (used : List Nat) : Nat → List (Phrase (Option α)) →
    Phrase (Option (Nat × α))
  | _, [] => .give none
  | i, p :: ps => do
    if used.contains i then firstUnused used (i + 1) ps
    else match ← p with
      | some a => return some (i, a)
      | none => firstUnused used (i + 1) ps

/-- The alternatives in any order, each at most once. -/
def eachOnce {α} (ps : List (Phrase (Option α))) : Phrase (List α) := do
  let found ← loop ([] : List (Nat × α)) fun found => do
    return (← firstUnused (found.map (·.1)) 0 ps).map (· :: found)
  return found.reverse.map (·.2)

/-- What was taken counts for nothing but its presence. -/
def presence (p : Phrase Bool) : Phrase (Option Unit) := do
  if ← p then return some () else return none

/-- A `p` with the lexemes that it took. -/
def taken {α} (p : Phrase α) : Phrase (α × List Lexeme) := do
  let before ← ahead id
  let a ← p
  let left ← ahead List.length
  return (a, before.take (before.length - left))

/-! ### Names -/

/-- An identifier: a word, a keyword too, or text in single quotes. -/
def ident : Phrase Ident :=
  token fun
    | .word w => some ⟨w.text, if w.quoted then some '"' else none⟩
    | .string .plain s => some ⟨s, some '\''⟩
    | _ => none

/-- A word. -/
def word : Phrase Word :=
  token fun
    | .word w => some w
    | _ => none

/-- A name with dots between its parts. -/
def name : Phrase Name := separated (hasMark .dot) ident

/-- An identifier; whether it is one. Whatever stands in its place is taken along. -/
def identAtAll : Phrase Bool := do
  if (← attempt ident).isSome then return true
  else
    skip
    return false

/-- A name; whether it is one. As much of it as there is is taken along, with whatever
stands in place of the next part. -/
def nameAtAll : Phrase Bool := do
  if (← attempt name).isSome then return true
  else
    let _ ← many (do let _ ← ident; mark .dot)
    skip
    return false

/-- Identifiers with commas between them. -/
def idents : Phrase Unit := unkept (list ident)

/-- Names with commas between them. -/
def names : Phrase (List Name) := list name

/-- Columns in brackets. -/
def columns : Phrase Unit := unkept (parenList ident)

/-- Columns in brackets, or nothing. -/
def columnsIfAny : Phrase Unit := unkept (parenIfAny idents)

/-! ### Literals -/

/-- What a constant is; `coded` is a string whose text is not what stands in its quotes. -/
inductive Constant where
  | number | text | coded | placeholder | truth | null
  deriving DecidableEq, Repr

/-- A constant. A word in double quotes counts as text; a colon or an at sign makes a
placeholder of the word or number right behind it. -/
def constant : Phrase Constant := do
  if ← hasMark .colon then reference
  else if ← hasMark (.operator "@") then reference
  else token fun
    | .number .. => some .number
    | .string .plain _ => some .text
    | .string .. => some .coded
    | .placeholder _ => some .placeholder
    | .word w =>
      if w.quoted then some .text
      else match w.keyword with
        | some .TRUE | some .FALSE => some .truth
        | some .NULL => some .null
        | _ => none
    | _ => none
where
  /-- What makes a placeholder of the sign before it. -/
  reference : Phrase Constant :=
    .one fun
      | ⟨.word _, false⟩ | ⟨.number _ false, false⟩ => some .placeholder
      | _ => none

/-- A constant that stands for a number. -/
def numeral : Phrase Unit := do
  match ← constant with
  | .number | .placeholder => return ()
  | _ => .miss

/-- A number with a sign or without. -/
def signedNumeral : Phrase Unit := do
  if ← hasMark .plus then numeral
  else if ← hasMark .minus then numeral
  else numeral

/-- The text of a literal: of a string, or of a word that is no keyword. -/
def text : Phrase String :=
  token fun
    | .word w => if w.keyword.isNone then some w.text else none
    | .string .plain s | .string .escaped s | .string .unicode s => some s
    | _ => none

/-- A literal text, not kept. -/
def literalText : Phrase Unit := unkept text

/-- A literal of one byte. -/
def character : Phrase Unit := do
  if (← text).utf8ByteSize = 1 then return () else .miss

/-- The text of a remark. -/
def remark : Phrase Unit :=
  token fun
    | .string .plain _ | .string .dollar _ => some ()
    | _ => none

/-- The value of decimal digits that stand for at most `limit`. -/
def digitsValue? (limit : Nat) (s : String) : Option Nat :=
  let digits := s.toList
  if digits.all Char.isDigit then
    let n := digits.foldl (fun n c => n * 10 + (c.toNat - '0'.toNat)) 0
    if n ≤ limit then some n else none
  else none

/-- A whole number of at most 64 bits. -/
def size : Phrase Unit :=
  token fun
    | .number digits _ => (digitsValue? 18446744073709551615 digits).map fun _ => ()
    | _ => none

/-- A whole number that fits into 63 bits, with a sign or without. -/
def signedSize : Phrase Unit := do
  if ← hasMark .minus then pure ()
  else
    let _ ← hasMark .plus
  token fun
    | .number digits _ => (digitsValue? 9223372036854775807 digits).map fun _ => ()
    | _ => none

/-! ### References to the recursive rules -/

def query : Phrase Ast.Query := call .query

def statement : Phrase Ast.Statement := call .statement

def body (above : Nat) : Phrase Ast.Body := call (.body above)

/-- An operand of an operator of strength `above`. -/
def operandOf (above : Nat) : Phrase Ast.Expr := call (.expression above)

def expression : Phrase Ast.Expr := operandOf 0

/-- Expressions in a list. -/
def expressions : Phrase (List Ast.Expr) := list expression

/-- An operand with no operators around it. -/
def operand : Phrase Ast.Expr := call .operand

def table : Phrase Ast.Factor := call .table

/-- A data type; a bracket that closes a type around it too has no place here. -/
def dataType : Phrase Ast.TypeName := do
  let t ← call .dataType
  if t.closesTwice then .miss else return t

/-- The expressions in a data type. -/
def typeParts : Phrase (List Ast.Expr) := do return (← dataType).parts

/-- The expressions in the definition of a column. -/
def column : Phrase (List Ast.Expr) := call .column

end QueryGateway.Sql.Grammar
