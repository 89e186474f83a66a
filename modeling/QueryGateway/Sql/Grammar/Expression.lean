import QueryGateway.Sql.Grammar.Call

/-! Expressions.

An expression is read by operator strength: an operand, then operators as long as they
bind tighter than what is around them. The parts of an expression are kept in the order
in which the gateway looks at them. -/
namespace QueryGateway.Sql.Grammar

open Phrase Ast

/-! ### Operator strengths -/

def orLevel : Nat := 10
def andLevel : Nat := 20
def notLevel : Nat := 30
def isLevel : Nat := 40
def equalLevel : Nat := 50
def betweenLevel : Nat := 60
def otherLevel : Nat := 70
def xorLevel : Nat := 75
def sumLevel : Nat := 80
def productLevel : Nat := 90
def powerLevel : Nat := 100
def zoneLevel : Nat := 110
def collateLevel : Nat := 120
def castLevel : Nat := 140
def dotLevel : Nat := 200

/-- Operators that compare, and so take `ANY`, `ALL` and `SOME` on their right. -/
def comparisons : List String :=
  ["<>", "!=", "<", "<=", ">", ">=", "~*", "!~", "!~*", "~~", "~~*", "!~~", "!~~*"]

/-- Operators that stand only before their operand. -/
def neverBinary : List String := ["!!", "|/", "||/", "@-@"]

/-- How tightly a mark binds as a binary or trailing operator; nothing for the rest. -/
def markStrength : Symbol → Nat
  | .equal | .assign | .tilde => equalLevel
  | .plus | .minus => sumLevel
  | .star => productLevel
  | .bang => otherLevel
  | .doubleColon => castLevel
  | .operator text =>
    if comparisons.contains text || text == "==" || text == "<=>" then equalLevel
    else if text == "/" || text == "%" then productLevel
    else if text == "^" then powerLevel
    else if neverBinary.contains text then 0
    else otherLevel
  | _ => 0

/-- How tightly a mark binds the operand that follows it. -/
def leadStrength : Symbol → Option Nat
  | .plus | .minus => some productLevel
  | .tilde => some sumLevel
  | .operator text =>
    if ["!!", "|/", "||/", "@", "#", "@-@", "@@", "?-", "?|"].contains text then some sumLevel
    else none
  | _ => none

/-- How tightly a word binds as an operator, given what follows it. In the options of a
column `NOT NULL` and `COLLATE` are no operators. -/
def wordStrength (place : Place) (k : Keyword) (rest : List Lexeme) : Nat :=
  match k with
  | .OR => orLevel
  | .AND => andLevel
  | .XOR => xorLevel
  | .COLLATE => if place = .free then collateLevel else 0
  | .AT => if spellsAll [.TIME, .ZONE] rest then zoneLevel else 0
  | .NOT =>
    match nextKeyword rest with
    | some .IN | some .BETWEEN | some .LIKE | some .ILIKE | some .SIMILAR | some .REGEXP
    | some .RLIKE | some .MATCH | some .MEMBER => betweenLevel
    | some .NULL => if place = .free then isLevel else 0
    | _ => 0
  | .IS | .NOTNULL => isLevel
  | .IN | .BETWEEN | .OVERLAPS | .OPERATOR | .LIKE | .ILIKE | .SIMILAR | .REGEXP | .RLIKE
  | .MATCH | .MEMBER => betweenLevel
  | .DIV => productLevel
  | _ => 0

/-- How tightly the operator that comes next binds, nothing if none does. -/
def strength (place : Place) (ls : List Lexeme) : Nat :=
  match next? ls with
  | some (.symbol s) => markStrength s
  | some (.word w) =>
    match w.keyword with
    | some k => wordStrength place k (ls.drop 1)
    | none => 0
  | _ => 0

/-- Whether a query starts here. -/
def startsQuery (ls : List Lexeme) : Bool := spellsAny [.SELECT, .WITH] ls

/-! ### Words that start an expression of their own -/

/-- `CASE`, after the word. -/
def caseForm : Phrase Expr := do
  let subject ←
    if ← has .WHEN then pure []
    else do
      let e ← expression
      expect .WHEN
      pure [e]
  let branches ← separated (has .WHEN) do
    let condition ← expression
    expect .THEN
    return [condition, ← expression]
  let otherwise ← after .ELSE (do return [← expression])
  expect .END
  return .form (subject ++ branches.flatten ++ otherwise)

/-- A query in brackets. -/
def bracketedQuery : Phrase Expr := do return .query (← paren query)

/-- A value as another type, after the word. -/
def castForm : Phrase Expr :=
  paren do
    let value ← expression
    expect .AS
    let parts ← typeParts
    if ← has .FORMAT then
      let _ ← constant
      asideAll [.AT, .TIME, .ZONE] constant
    return .form (value :: parts)

/-- Text in another character set, or a value as another type. -/
def convertForm : Phrase Expr :=
  paren do
    let value ← expression
    if ← has .USING then
      let _ ← name
      return .form [value]
    else
      mark .comma
      let parts ← typeParts
      asideAll [.CHARACTER, .SET] name
      return .form (value :: parts)

/-- A part of some text, by its place. -/
def substringForm : Phrase Expr :=
  paren do
    let value ← expression
    let first ←
      if ← hasMark .comma then pure [← expression]
      else after .FROM (do return [← expression])
    let count ←
      if ← has .FOR then pure [← expression]
      else do
        if ← hasMark .comma then pure [← expression] else pure []
    return .form (value :: first ++ count)

/-- Text with a part of it replaced. -/
def overlayForm : Phrase Expr :=
  paren do
    let value ← expression
    expect .PLACING
    let replacement ← expression
    expect .FROM
    let first ← expression
    let count ← after .FOR (do return [← expression])
    return .form ([value, replacement, first] ++ count)

/-- Text without some characters at its ends. -/
def trimForm : Phrase Expr :=
  paren do
    skipAny [.BOTH, .LEADING, .TRAILING]
    let first ← expression
    if ← has .FROM then return .form [← expression, first]
    else
      let _ ← hasMark .comma
      return .form [first]

/-- Where some text stands in another one, or a call of the same name. -/
def positionForm : Phrase Expr := do
  let found ← attempt <| paren do
    let part ← operandOf betweenLevel
    expect .IN
    return .form [part, ← expression]
  match found with
  | some e => return e
  | none => callOfName

/-- The elements of an array, in their brackets. -/
def elements : Phrase Expr := do
  opening .square
  let es ← listOrNone .square expression
  closing .square
  return .form es

/-- The form that a keyword starts, read after the keyword, or nothing if it starts none. For
two words the bracket that opens behind them decides. -/
def wordForm (k : Keyword) (behind : Option Bracket) : Option (Phrase Expr) :=
  match k with
  | .TRUE | .FALSE | .NULL => some (.give .literal)
  | .CURRENT_CATALOG | .CURRENT_USER | .SESSION_USER | .USER => some (.give (.call []))
  | .CURRENT_TIMESTAMP | .CURRENT_TIME | .CURRENT_DATE | .LOCALTIME | .LOCALTIMESTAMP => some do
    if ← ahead (opens .round) then return .call (← arguments) else return .call []
  | .CASE => some caseForm
  | .CONVERT => some convertForm
  | .CAST | .TRY_CAST | .SAFE_CAST => some castForm
  | .EXISTS => some bracketedQuery
  | .EXTRACT => some <| paren do
    let _ ← ident
    expect .FROM
    return .form [← expression]
  | .CEIL | .FLOOR => some <| paren do
    let value ← expression
    if ← has .TO then
      let _ ← ident
    else if ← hasMark .comma then
      if (← constant) = .number then pure () else .miss
    return .form [value]
  | .POSITION => if behind = some .round then some positionForm else none
  | .SUBSTR | .SUBSTRING => some substringForm
  | .OVERLAY => some overlayForm
  | .TRIM => some trimForm
  | .INTERVAL => some intervalValue
  | .ARRAY =>
    match behind with
    | some .square => some elements
    | some .round => some (do return .call [← bracketedQuery])
    | _ => none
  | .NOT => some do
    if ← has .EXISTS then bracketedQuery
    else return .form [← operandOf notLevel]
  | .CIRCLE | .BOX | .PATH | .LINE | .LSEG | .POINT | .POLYGON => some do
    let _ ← constant
    return .form []
  | _ => none

/-- Keywords that never stand for a name. -/
def neverName (k : Keyword) : Bool := [.EXISTS, .STRUCT, .TRIM].contains k

/-- A word that starts no form of its own: a call, a string in the character set that the
word names behind a low line, or a name. -/
def plainWord (w : Word) : Phrase Expr := do
  if ← ahead (opens .round) then callOfName
  else
    let introduced ←
      if w.text.startsWith "_" then
        attempt <| token fun
          | .string .plain _ | .string .hexadecimal _ => some ()
          | _ => none
      else pure none
    if introduced.isSome then return .form []
    else return .name [⟨w.text, if w.quoted then some '"' else none⟩]

/-- A word with what it starts. A form that does not come about leaves a name. -/
def wordOperand : Phrase Expr := do
  let w ← word
  let behind ← ahead opened?
  match w.keyword with
  | none => plainWord w
  | some k =>
    match wordForm k behind with
    | none => plainWord w
    | some form => if neverName k then form else fallback form (plainWord w)

/-! ### Operands -/

/-- A constant behind the type that it has. A type known by its name alone does not lead
one. -/
def typedConstant : Phrase Expr := do
  let t ← dataType
  match t.form with
  | .interval => intervalValue
  | .custom => .miss
  | .builtin =>
    let _ ← constant
    return .form t.parts

/-- What stands between round brackets: a query, or expressions. -/
def bracketed : Phrase Expr :=
  paren do
    if ← ahead startsQuery then return .query (← query)
    else return .form (← within .free expressions)

/-- A call or a constant between curly brackets, each behind a word that says which. -/
def braced : Phrase Expr := do
  opening .curly
  let e ←
    match ← attempt (do expect .FN; let _ ← name; callOfName) with
    | some e => pure e
    | none => do
      let _ ← token fun
        | .word w =>
          if !w.quoted && ["d", "t", "ts"].contains w.text then some () else none
        | _ => none
      let _ ← constant
      pure (.form [])
  closing .curly
  return e

/-- The mark that leads an operand, with how tightly it binds. -/
def leadingMark : Phrase Nat :=
  token fun
    | .symbol s => leadStrength s
    | _ => none

/-- An operand that is not led by a type. -/
def untypedOperand : Phrase Expr := do
  match ← attempt leadingMark with
  | some level => return .form [← operandOf level]
  | none =>
  if ← ahead startsWord then wordOperand
  else if ← ahead (opens .round) then bracketed
  else if ← ahead (opens .square) then elements
  else if ← ahead (opens .curly) then braced
  else do
    let _ ← constant
    return .literal

/-- An operand with the collation after it. -/
def wholeOperand : Phrase Expr := do
  let typed ← if ← ahead startsWord then attempt typedConstant else pure none
  match typed with
  | some e => return e
  | none =>
  let e ← untypedOperand
  if (← here) = .free then
    if ← has .COLLATE then
      let _ ← name
      return .form [e]
  return e

/-! ### Accesses -/

/-- The member that follows a dot: whatever may be accessed, else a bare name. -/
def member : Phrase Expr := do
  let found ← attempt do
    match ← operandOf dotLevel with
    | .name n => return .name n
    | .literal => return .literal
    | .call parts => return .call parts
    | .path parts => return .path parts
    | _ => .miss
  match found with
  | some e => return e
  | none => return .name [← ident]

/-- Joins a member to what it is accessed on. -/
def access : Expr → Expr → Expr
  | .name n, .name m => .name (n ++ m)
  | .name _, .call parts => .call parts
  | e, m => .path [e, m]

/-- A subscript or a slice, after its opening bracket; it takes the closing one too. -/
def subscript : Phrase (List Expr) := do
  let lower ← if ← ahead (marks .colon) then pure [] else pure [← expression]
  if ← hasClosing .square then return lower
  mark .colon
  if ← hasClosing .square then return lower
  let upper ← expression
  if ← hasClosing .square then return lower ++ [upper]
  mark .colon
  if ← hasClosing .square then return lower ++ [upper]
  let stride ← expression
  closing .square
  return lower ++ [upper, stride]

/-- The accesses that follow an operand. All columns may only be taken of a name. -/
def accesses (root : Expr) : Phrase Expr := do
  let (e, _) ← loop (root, false) fun (e, ended) => do
    if ended then return none
    if ← hasMark .dot then
      if ← hasMark .star then
        match e with
        | .name _ => return some (.form [], true)
        | _ => .miss
      else
        match ← attempt direct with
        | some i => return some (access e (.name [i]), false)
        | none => return some (access e (← member), false)
    else if (← attempt (opening .square)).isSome then
      return some (.path (e :: (← subscript)), false)
    else return none
  return e
where
  /-- A string or a placeholder, which is a name after a dot. -/
  direct : Phrase Ident :=
    token fun
      | .string .plain s => some ⟨s, some '\''⟩
      | .placeholder s => some ⟨"$" ++ s, none⟩
      | _ => none

/-! ### Operators -/

/-- The right side of a comparison with the values of a query or an array. -/
def quantified (level : Nat) : Phrase Expr := do
  if ← ahead (fun ls => opens .round ls && startsQuery (ls.drop 1)) then operandOf level
  else paren (operandOf level)

/-- Whether a mark compares. -/
def compares : Symbol → Bool
  | .equal | .tilde => true
  | .operator text => comparisons.contains text || text == "=="
  | _ => false

/-- A binary operator's right side; only a comparison takes `ANY`, `ALL` or `SOME`. -/
def rightSide (left : Expr) (comparing : Bool) (level : Nat) : Phrase Expr := do
  if (← hasAny [.ANY, .ALL, .SOME]).isSome then
    let right ← quantified level
    if comparing then return .form [left, right] else .miss
  else return .form [left, ← operandOf level]

/-- `IN` and its list or query. -/
def membership (left : Expr) : Phrase Expr := do
  if ← has .UNNEST then return .form [left, ← paren expression]
  else
    paren do
      match ← attempt query with
      | some q => return .form [left, .query q]
      | none => return .form (left :: (← expressions))

/-- The character that escapes in a pattern, or nothing. -/
def escapeClause : Phrase Unit := aside .ESCAPE constant

/-- `LIKE` and its kin, after the word. -/
def pattern (left : Expr) : Phrase Expr := do
  skipAny [.ANY]
  let right ← operandOf betweenLevel
  escapeClause
  return .form [left, right]

/-- What may follow `IS`. -/
def isForm (left : Expr) : Phrase Expr := do
  let plain ← hasOneOf
    [[.NULL], [.NOT, .NULL], [.TRUE], [.NOT, .TRUE], [.FALSE], [.NOT, .FALSE], [.UNKNOWN],
     [.NOT, .UNKNOWN]]
  if plain then return .form [left]
  if ← hasOneOf [[.DISTINCT, .FROM], [.NOT, .DISTINCT, .FROM]] then
    return .form [left, ← expression]
  skipAny [.NOT]
  skipAny [.NFC, .NFD, .NFKC, .NFKD]
  expect .NORMALIZED
  return .form [left]

/-- A predicate that `NOT` may precede. -/
def predicate (left : Expr) : Phrase Expr := do
  let negated ← has .NOT
  let regexp ← has .REGEXP
  let rlike ← has .RLIKE
  let null ← if (← here) = .free then has .NULL else pure false
  if regexp || rlike then return .form [left, ← operandOf betweenLevel]
  else if negated && null then return .form [left]
  else if ← has .IN then membership left
  else if ← has .BETWEEN then
    let low ← operandOf betweenLevel
    expect .AND
    return .form [left, low, ← operandOf betweenLevel]
  else if (← hasAny [.LIKE, .ILIKE]).isSome then pattern left
  else
    expectAll [.SIMILAR, .TO]
    let right ← operandOf betweenLevel
    escapeClause
    return .form [left, right]

/-- An operator spelled as a word. -/
def wordOperator (left : Expr) (level : Nat) (k : Keyword) : Phrase Expr :=
  match k with
  | .AND | .OR | .XOR | .OVERLAPS => do
    expect k
    rightSide left false level
  | .OPERATOR => do
    expect k
    paren (unkept (separated (hasMark .dot) anything))
    rightSide left false level
  | .IS => do
    expect k
    isForm left
  | .NOTNULL => do
    expect k
    return .form [left]
  | .AT => do
    expectAll [.AT, .TIME, .ZONE]
    return .form [left, ← operandOf level]
  | .COLLATE => do
    expect k
    let _ ← name
    return .form [left]
  | .MEMBER => do
    expectAll [.MEMBER, .OF]
    return .form [left, ← paren expression]
  | .NOT | .IN | .BETWEEN | .LIKE | .ILIKE | .SIMILAR | .REGEXP | .RLIKE => predicate left
  | _ => .miss

/-- An operator spelled as a mark. -/
def markOperator (left : Expr) (level : Nat) (s : Symbol) : Phrase Expr := do
  mark s
  match s with
  | .doubleColon => return .form (left :: (← typeParts))
  | .bang => return .form [left]
  | _ => rightSide left (compares s) level

/-- The operator that comes next, with its right side. -/
def operator (left : Expr) (level : Nat) : Phrase Expr := do
  match ← ahead next? with
  | some (.symbol s) => markOperator left level s
  | some (.word w) =>
    match w.keyword with
    | some k => wordOperator left level k
    | none => .miss
  | _ => .miss

/-- An expression up to the first operator that binds no tighter than `above`. -/
def expressionAbove (above : Nat) : Phrase Expr := do
  let place ← here
  let first ← accesses (← operand)
  loop first fun left => do
    let level ← ahead (strength place)
    if level ≤ above then return none
    else return some (← operator left level)

end QueryGateway.Sql.Grammar
