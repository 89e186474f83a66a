import QueryGateway.Sql.Grammar.DataType

/-! Calls: what stands in the brackets of a call, and the clauses after them. -/
namespace QueryGateway.Sql.Grammar

open Phrase Ast

/-! ### Sort keys -/

/-- The direction of a sort key, and the place of nulls. -/
def sortOrder : Phrase Unit := do
  skipAny [.ASC, .DESC]
  if ← hasAll [.NULLS, .FIRST] then pure () else skipAll [.NULLS, .LAST]

/-- An expression to sort by. -/
def sortKey : Phrase Expr := do
  let key ← expression
  sortOrder
  return key

def sortKeys : Phrase (List Expr) := list sortKey

/-- `ORDER BY` and its keys, or nothing. -/
def orderBy : Phrase (List Expr) := afterAll [.ORDER, .BY] sortKeys

/-! ### Stars -/

/-- What a name with dots leads to: a star, something that no name goes on with, or its own
end. -/
inductive Chain where
  | star | broken | ended
  deriving DecidableEq, Repr

/-- Where the dots after a part of a name lead. -/
def chain : List Lexeme → Chain
  | ⟨.symbol .dot, _⟩ :: ⟨t, _⟩ :: rest =>
    match t with
    | .symbol .star => .star
    | .word _ | .string .plain _ | .placeholder _ => chain rest
    | _ => .broken
  | [⟨.symbol .dot, _⟩] => .broken
  | _ => .ended

/-- Where the name that comes next leads, if a name comes next. -/
def chainAhead (ls : List Lexeme) : Chain :=
  match next? ls with
  | some (.word _) | some (.string .plain _) => chain (ls.drop 1)
  | _ => .ended

/-- Whether a star comes next, alone or in brackets. -/
def startsStar : List Lexeme → Bool
  | ⟨.symbol .star, _⟩ :: _ => true
  | ⟨.opening .round, _⟩ :: ⟨.symbol .star, _⟩ :: ⟨.closing .round, _⟩ :: _ => true
  | _ => false

/-- A star, all columns of a table, or an expression; nothing stands for the stars. -/
def starOrExpression : Phrase (Option Expr) := do
  if ← hasMark .star then return none
  if ← ahead startsStar then
    paren (mark .star)
    return none
  match ← ahead chainAhead with
  | .broken => .miss
  | .star =>
    anything
    loop () fun _ => do
      mark .dot
      if ← hasMark .star then return none
      anything
      return some ()
    return none
  | .ended => return some (← expression)

/-! ### Windows -/

/-- A value and the units it counts. -/
def intervalValue : Phrase Expr := do
  let value ← operand
  intervalQualifier
  return .form [value]

/-- One end of a window's frame. -/
def frameBound : Phrase (List Expr) := do
  if ← hasAll [.CURRENT, .ROW] then return []
  let distance ←
    if ← has .UNBOUNDED then pure []
    else if ← ahead startsString then pure [← intervalValue]
    else pure [← expression]
  let _ ← anyOf [.PRECEDING, .FOLLOWING]
  return distance

/-- The frame of a window. -/
def frame : Phrase (List Expr) := do
  let _ ← anyOf [.ROWS, .RANGE, .GROUPS]
  if ← has .BETWEEN then
    let low ← frameBound
    expect .AND
    return low ++ (← frameBound)
  else frameBound

/-- A window. The name of another one that it builds on is no keyword. -/
def window : Phrase (List Expr) :=
  paren do
    let _ ← attempt (token fun
      | .word w => if w.keyword.isNone then some () else none
      | _ => none)
    let partition ← afterAll [.PARTITION, .BY] expressions
    let order ← orderBy
    let bounds ← if ← ahead (closes .round) then pure [] else frame
    return partition ++ order ++ bounds

/-! ### Arguments -/

/-- What a function that makes JSON does with nulls, or nothing. -/
def nullClause : Phrase Unit := do
  if ← hasAll [.ABSENT, .ON, .NULL] then pure () else skipAll [.NULL, .ON, .NULL]

/-- The type that a function returns, or nothing. -/
def returnedType : Phrase (List Expr) := after .RETURNING typeParts

/-- The sign between the name of an argument and its value. -/
def nameSign : Phrase Unit :=
  token fun
    | .symbol .fatArrow | .symbol .assign | .symbol .colon => some ()
    | t => if t.keyword = some .VALUE then some () else none

/-- One argument, with its name if it has one. -/
def argument : Phrase (List Expr) := do
  if ← ahead startsStar then return (← starOrExpression).toList
  match ← ahead chainAhead with
  | .ended =>
    let first ← expression
    match ← attempt (do nameSign; starOrExpression) with
    | some value => return first :: value.toList
    | none => return [first]
  | _ =>
    match ← attempt (do
      let first ← expression
      nameSign
      return first :: (← starOrExpression).toList) with
    | some parts => return parts
    | none => return (← starOrExpression).toList

/-- What an aggregate does when its result grows too long, or nothing. -/
def overflowClause : Phrase (List Expr) := do
  if ← hasAll [.ON, .OVERFLOW] then
    if ← has .ERROR then return []
    expect .TRUNCATE
    let filler ←
      if ← ahead (spellsAny [.WITH, .WITHOUT]) then pure []
      else if ← ahead startsFiller then pure [← expression]
      else .miss
    let _ ← anyOf [.WITH, .WITHOUT]
    expect .COUNT
    return filler
  else return []
where
  /-- Whether a string comes next that may stand for what was cut off. -/
  startsFiller : List Lexeme → Bool
    | ⟨.string how _, _⟩ :: _ =>
      [Writing.plain, .escaped, .unicode, .national, .hexadecimal].contains how
    | _ => false

/-- The arguments of a call with the clauses that go with them, in their brackets. -/
def arguments : Phrase (List Expr) :=
  paren do
    nullClause
    let returned ← returnedType
    if ← ahead (closes .round) then return returned
    let all ← has .ALL
    let distinct ← has .DISTINCT
    if all && distinct then .miss
    else
      let given ← list argument
      let order ← orderBy
      let limit ← after .LIMIT (do return [← expression])
      let filler ← overflowClause
      nullClause
      return given.flatten ++ returned ++ order ++ limit ++ filler ++ (← returnedType)

/-- The condition on the rows that enter an aggregate. The words that lead to it are taken as
far as they stand there. -/
def filter : Phrase (List Expr) := do
  if ← has .FILTER then
    if (← attempt (opening .round)).isSome then
      if ← has .WHERE then
        let condition ← expression
        closing .round
        return [condition]
  return []

/-- A call whose name has been read, with the clauses after its brackets. The rows that enter
it are looked at before the group it is taken within. -/
def callOfName : Phrase Expr := do
  let parts ← arguments
  let within ← afterAll [.WITHIN, .GROUP] (paren (do expectAll [.ORDER, .BY]; sortKeys))
  let condition ← filter
  if (← hasAny [.RESPECT, .IGNORE]).isSome then expect .NULLS
  let frame ←
    if ← has .OVER then
      if ← ahead (opens .round) then window
      else do
        let _ ← ident
        pure []
    else pure []
  return .call (parts ++ condition ++ frame ++ within)

end QueryGateway.Sql.Grammar
