import QueryGateway.Sql.Grammar.Table

/-! Queries: selects, set operations, and the clauses around them. -/
namespace QueryGateway.Sql.Grammar

open Phrase Ast

/-! ### Select -/

/-- One item of a select list. -/
def selectItem : Phrase (List Expr) := do
  match ← starOrExpression with
  | none => return []
  | some e =>
    if isFrom e then .miss
    else
      let _ ← label endsItem
      return [e]
where
  /-- The word `FROM` is no item. -/
  isFrom : Expr → Bool
    | .name [⟨text, none⟩] => text.toLower == "from"
    | _ => false

/-- Items with commas between them. -/
def selectItems : Phrase (List Expr) := do return (← list selectItem).flatten

/-- How many rows a select takes from the top. -/
def top : Phrase (List Expr) := do
  let count ←
    if ← ahead (opens .round) then pure [← paren expression]
    else do
      size
      pure []
  skipAny [.PERCENT]
  skipAll [.WITH, .TIES]
  return count

/-- `ALL` or `DISTINCT`, not both, and what rows must differ in. -/
def distinctness : Phrase (List Expr) := do
  let all ← has .ALL
  if ← has .DISTINCT then
    if all then .miss else after .ON (parenListOrNone expression)
  else return []

/-- The table that a select makes. -/
def intoTable : Phrase Name := do
  skipAny [.TEMP, .TEMPORARY]
  skipAny [.UNLOGGED]
  skipAny [.TABLE]
  name

/-- A view of the rows that an expression makes of each row. -/
def lateralView : Phrase (Option Expr) := do
  if ← hasAll [.LATERAL, .VIEW] then
    skipAny [.OUTER]
    let e ← expression
    let _ ← name
    let _ ← list (label fun k =>
      [Keyword.WHERE, .GROUP, .CLUSTER, .HAVING, .LATERAL].contains k)
    return some e
  else return none

/-- A bracketed list, possibly empty; where `lone` is set, an expression may stand for it. -/
def tuple (lone : Bool) : Phrase (List Expr) := do
  let bracketed ← ahead (opens .round)
  if lone && !bracketed then return [← expression] else parenListOrNone expression

/-- One key of `GROUP BY`. -/
def groupKey : Phrase (List Expr) := do
  if ← hasAll [.GROUPING, .SETS] then return (← parenList (tuple false)).flatten
  if (← hasAny [.CUBE, .ROLLUP]).isSome then return (← parenList (tuple true)).flatten
  if (← attempt (paren (.give ()))).isSome then return []
  return [← expression]

/-- `GROUP BY` with its keys, and with sets of keys behind them. -/
def groupBy : Phrase (List Expr) :=
  afterAll [.GROUP, .BY] do
    let keys ← if ← has .ALL then pure [] else list groupKey
    let sets ← afterAll [.GROUPING, .SETS] (parenList (tuple true))
    return keys.flatten ++ sets.flatten

/-- A window and its name. -/
def namedWindow : Phrase (List Expr) := do
  let _ ← ident
  expect .AS
  window

/-- `WHERE` and its condition, or nothing. -/
def whereClause : Phrase (List Expr) := after .WHERE (do return [← expression])

/-- `WINDOW` and `QUALIFY` in either order; the windows are looked at first. -/
def windowsAndCondition : Phrase (List Expr) := do
  let windows ← windowClause
  let condition ← after .QUALIFY (do return [← expression])
  let late ← if windows.1 then pure [] else return (← windowClause).2 ++ condition
  return windows.2 ++ late ++ condition
where
  /-- The windows, and whether there are any. -/
  windowClause : Phrase (Bool × List Expr) := do
    if ← has .WINDOW then return (true, (← list namedWindow).flatten) else return (false, [])

/-- A select, from its first word on. -/
def select : Phrase Select := do
  expect .SELECT
  let distinct ← distinctness
  let count ← after .TOP top
  let items ← if ← ahead (spells .FROM) then pure [] else selectItems
  let into ← if ← has .INTO then pure (some (← intoTable)) else pure none
  let source ← after .FROM tables
  let views ← series lateralView
  let condition ← whereClause
  let groups ← groupBy
  let cluster ← afterAll [.CLUSTER, .BY] expressions
  let distribute ← afterAll [.DISTRIBUTE, .BY] expressions
  let sort ← afterAll [.SORT, .BY] sortKeys
  let having ← after .HAVING (do return [← expression])
  let windows ← windowsAndCondition
  return {
    projection := distinct ++ count ++ items
    into := into
    source := source
    conditions := views ++ condition ++ groups ++ cluster ++ distribute ++ sort ++ having
      ++ windows }

/-! ### Query bodies -/

/-- Rows of values. -/
def rows : Phrase (List Expr) := do
  return (← list (do skipAny [.ROW]; parenList expression)).flatten

/-- A table's name standing for all its rows. Two more tokens are passed over after it,
unless a dot and a word follow it as the rest of the name. -/
def wholeTable : Phrase String := do
  let first ← word
  if ← hasMark .dot then return first.text ++ "." ++ (← word).text
  else
    skip
    skip
    return first.text

/-- The first operand of a query body. -/
def bodyOperand : Phrase Body := do
  if ← ahead (spells .SELECT) then return .select (← select)
  else if ← ahead (opens .round) then return .nested (← paren query)
  else if (← hasAny [.VALUES, .VALUE]).isSome then return .values (← rows)
  else
    expect .TABLE
    return .table (← wholeTable)

/-- How tightly a set operator binds. -/
def setStrength (ls : List Lexeme) : Nat :=
  match nextKeyword ls with
  | some .UNION | some .EXCEPT | some .MINUS => 10
  | some .INTERSECT => 20
  | _ => 0

/-- The name of a set operator. -/
def setOperator : Phrase String :=
  token fun t =>
    match t.keyword with
    | some .UNION => some "UNION"
    | some .EXCEPT => some "EXCEPT"
    | some .MINUS => some "MINUS"
    | some .INTERSECT => some "INTERSECT"
    | _ => none

/-- Whether a set operation keeps equal rows, and whether it matches columns by name. -/
def setQuantifier : Phrase Unit := do
  if ← hasOneOf [[.DISTINCT, .BY, .NAME], [.BY, .NAME], [.ALL, .BY, .NAME]] then pure ()
  else skipAny [.ALL, .DISTINCT]

/-- A query body up to the first set operator that binds no tighter than `above`. -/
def bodyAbove (above : Nat) : Phrase Body := do
  let first ← bodyOperand
  loop first fun left => do
    let level ← ahead setStrength
    if level ≤ above then return none
    let op ← setOperator
    setQuantifier
    return some (.setOperation op left (← body level))

/-! ### Clauses of a query -/

/-- One entry of a `WITH` list. -/
def cte : Phrase Cte := do
  let n ← ident
  let columns ←
    if ← has .AS then pure []
    else
      let columns ← labelColumns
      expect .AS
      pure columns
  if ← has .MATERIALIZED then pure () else skipAll [.NOT, .MATERIALIZED]
  let q ← paren query
  aside .FROM ident
  return ⟨n.text, q, columns⟩

/-- How many rows a query skips. -/
def offset : Phrase (List Expr) :=
  after .OFFSET do
    let count ← expression
    skipAny [.ROW, .ROWS]
    return [count]

/-- How many rows a query gives; `ALL` is no limit. -/
def limit : Phrase (List Expr) :=
  after .LIMIT (do if ← has .ALL then return [] else return [← expression])

/-- `LIMIT` and `OFFSET` in either order. -/
def limitAndOffset : Phrase (List Expr) := do
  if ← ahead (spells .OFFSET) then
    let skipped ← offset
    return (← limit) ++ skipped
  else if ← ahead (spells .LIMIT) then
    let given ← limit
    return given ++ (← offset)
  else return []

/-- The other spelling of a limit. -/
def fetch : Phrase Unit := do
  if ← has .FETCH then
    skipAny [.FIRST, .NEXT]
    if (← hasAny [.ROW, .ROWS]).isNone then
      let _ ← constant
      skipAny [.PERCENT]
      skipAny [.ROW, .ROWS]
    if ← has .ONLY then pure () else skipAll [.WITH, .TIES]

/-- A name for the element that a row or a document becomes, in brackets, or nothing. -/
def elementName : Phrase Unit := unkept (parenIfAny text)

/-- The rows as one XML document. -/
def asXml : Phrase Unit := do
  match ← anyOf [.RAW, .AUTO, .EXPLICIT, .PATH] with
  | .RAW | .PATH => elementName
  | _ => pure ()
  let _ ← series do
    if ← hasMark .comma then
      if ← has .ELEMENTS then pure ()
      else if ← has .BINARY then expect .BASE64
      else if ← has .ROOT then paren literalText
      else skipAny [.TYPE]
      return some ()
    else return none

/-- The rows as one JSON document. -/
def asJson : Phrase Unit := do
  let _ ← anyOf [.AUTO, .PATH]
  let _ ← series do
    if ← hasMark .comma then
      if ← has .ROOT then paren literalText
      else skipAny [.INCLUDE_NULL_VALUES, .WITHOUT_ARRAY_WRAPPER]
      return some ()
    else return none

/-- A lock that a query takes, after its first word. -/
def lock : Phrase Unit := do
  let _ ← anyOf [.UPDATE, .SHARE]
  aside .OF name
  if ← has .NOWAIT then pure () else skipAll [.SKIP, .LOCKED]

/-- The locks that a query takes, and last the form in which it gives its rows. -/
def locksAndForm : Phrase Unit :=
  loop () fun _ => do
    if ← has .FOR then
      if ← has .XML then
        asXml
        return none
      else if ← has .JSON then
        asJson
        return none
      else if ← has .BROWSE then return none
      else
        lock
        return some ()
    else return none

/-- A query. A statement that changes data may stand for its body. -/
def wholeQuery (insert : Phrase Body) (update : Phrase Update)
    (delete merge : Phrase (List Expr)) : Phrase Query := do
  let (ctes, recursive) ←
    if ← has .WITH then do
      let recursive ← has .RECURSIVE
      pure (← list cte, recursive)
    else pure ([], false)
  if ← has .INSERT then return ⟨ctes, recursive, ← insert, []⟩
  else if ← has .UPDATE then return ⟨ctes, recursive, .update (← update), []⟩
  else if ← has .DELETE then
    let _ ← delete
    return ⟨ctes, recursive, .delete, []⟩
  else if ← has .MERGE then
    let _ ← merge
    return ⟨ctes, recursive, .merge, []⟩
  else
    let b ← body 0
    let order ← orderBy
    let window ← limitAndOffset
    fetch
    locksAndForm
    return ⟨ctes, recursive, b, order ++ window⟩

end QueryGateway.Sql.Grammar
