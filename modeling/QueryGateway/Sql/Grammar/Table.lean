import QueryGateway.Sql.Grammar.Expression

/-! The items of a `FROM` list: tables, functions that make tables, queries in brackets, and
the joins between them. -/
namespace QueryGateway.Sql.Grammar

open Phrase Ast

/-! ### Aliases -/

/-- Keywords that end a select item rather than name it. -/
def endsItem (k : Keyword) : Bool :=
  [.WITH, .EXPLAIN, .ANALYZE, .SELECT, .WHERE, .GROUP, .SORT, .HAVING, .ORDER, .TOP, .LATERAL,
   .VIEW, .LIMIT, .OFFSET, .FETCH, .UNION, .EXCEPT, .EXCLUDE, .INTERSECT, .MINUS, .CLUSTER,
   .DISTRIBUTE, .RETURNING, .VALUES, .FROM, .INTO, .END].contains k

/-- Keywords that end a table rather than name it. -/
def endsTable (k : Keyword) : Bool :=
  [.WITH, .EXPLAIN, .ANALYZE, .SELECT, .WHERE, .GROUP, .SORT, .HAVING, .ORDER, .PIVOT, .UNPIVOT,
   .TOP, .LATERAL, .VIEW, .LIMIT, .OFFSET, .FETCH, .UNION, .EXCEPT, .INTERSECT, .MINUS, .ON,
   .JOIN, .INNER, .CROSS, .FULL, .LEFT, .RIGHT, .NATURAL, .USING, .CLUSTER, .DISTRIBUTE, .GLOBAL,
   .ANTI, .SEMI, .RETURNING, .ASOF, .MATCH_CONDITION, .OUTER, .SET, .QUALIFY, .WINDOW, .END, .FOR,
   .PARTITION, .PREWHERE, .SETTINGS, .FORMAT, .START, .CONNECT, .MATCH_RECOGNIZE, .SAMPLE,
   .TABLESAMPLE, .FROM, .OPEN].contains k

/-- An alias; without `AS` a keyword that `ends` tells is none. -/
def label (ends : Keyword → Bool) : Phrase (Option String) := do
  if ← has .AS then return some (← ident).text
  else attempt <| token fun
    | .word w => if (w.keyword.map ends).getD false then none else some w.text
    | .string .plain s => some s
    | _ => none

/-- An expression and the name it is given. -/
def labelled : Phrase Expr := do
  let e ← expression
  aside .AS ident
  return e

/-- The columns after a table's alias, each with a type if it has one: what is in the
types. -/
def labelColumns : Phrase (List Expr) := do
  let types ← parenIfAny <| list do
    let _ ← ident
    attempt typeParts
  return ((types.getD []).flatMap fun parts => parts.getD [])

/-- A table's alias, and what is in the types of its columns. -/
def tableLabel : Phrase (Option String × List Expr) := do
  match ← label endsTable with
  | some a => return (some a, ← labelColumns)
  | none => return (none, [])

/-! ### Tables turned round -/

/-- Rows turned into columns, after the word. -/
def pivot : Phrase (List Expr) := do
  opening .round
  let aggregates ← list do
    let _ ← word
    let e ← callOfName
    if ← ahead (spellsAll [.AS, .FOR]) then .miss
    let _ ← label fun k => k = .FOR || endsItem k
    return e
  expect .FOR
  let keys ←
    if ← ahead (opens .round) then parenList (operandOf betweenLevel)
    else pure [← operandOf betweenLevel]
  expect .IN
  let values ← paren do
    if ← has .ANY then orderBy
    else if ← ahead startsQuery then return [.query (← query)]
    else list labelled
  let otherwise ← afterAll [.DEFAULT, .ON, .NULL] (do return [← paren expression])
  closing .round
  let (_, columns) ← tableLabel
  return aggregates ++ keys ++ values ++ otherwise ++ columns

/-- Columns turned into rows, after the word. -/
def unpivot : Phrase (List Expr) := do
  if (← hasAny [.INCLUDE, .EXCLUDE]).isSome then expect .NULLS
  opening .round
  let value ← expression
  expect .FOR
  let _ ← ident
  expect .IN
  let sources ← parenList labelled
  closing .round
  let (_, columns) ← tableLabel
  return value :: sources ++ columns

/-- A table, turned round as often as the text says. -/
def turned (t : Factor) : Phrase Factor :=
  loop t fun t => do
    match ← hasAny [.PIVOT, .UNPIVOT] with
    | some .PIVOT => return some (.turned t (← pivot))
    | some _ => return some (.turned t (← unpivot))
    | none => return none

/-! ### Tables made of documents -/

/-- What a column of a JSON table does where there is nothing to find, or an error. -/
def jsonDefault : Phrase (Option Unit) := do
  let given ←
    if (← hasAny [.NULL, .ERROR]).isSome then pure true
    else do
      if ← has .DEFAULT then
        let _ ← constant
        pure true
      else pure false
  if given then
    expect .ON
    let _ ← anyOf [.EMPTY, .ERROR]
    return some ()
  else return none

/-- The columns of a JSON table, in their brackets. -/
def jsonTableColumns : Phrase (List Expr) := do return (← parenList (call .jsonColumn)).flatten

/-- A column of a JSON table, or a path with columns below it: what is in the types. -/
def jsonTableColumn : Phrase (List Expr) := do
  if ← has .NESTED then
    skipAny [.PATH]
    let _ ← constant
    expect .COLUMNS
    jsonTableColumns
  else
    let _ ← ident
    if ← has .FOR then
      expect .ORDINALITY
      return []
    else
      let parts ← typeParts
      skipAny [.EXISTS]
      expect .PATH
      let _ ← constant
      let _ ← series jsonDefault
      return parts

/-- The rows of a JSON document along a path. -/
def jsonTable : Phrase (List Expr) :=
  paren do
    let document ← expression
    mark .comma
    let _ ← constant
    expect .COLUMNS
    return document :: (← jsonTableColumns)

/-- The members of a JSON document. -/
def jsonMembers : Phrase (List Expr) := do
  let document ← paren do
    let document ← expression
    if ← hasMark .comma then
      let _ ← constant
    return document
  let columns ← after .WITH <| parenList do
    let _ ← ident
    let parts ← typeParts
    if ← ahead startsString then anything
    if ← has .AS then expect .JSON
    return parts
  return document :: columns.flatten

/-- A column of an XML table. -/
def xmlColumn : Phrase (List Expr) := do
  let _ ← ident
  if ← has .FOR then
    expect .ORDINALITY
    return []
  else
    let parts ← typeParts
    let path ← after .PATH (do return [← expression])
    let otherwise ← after .DEFAULT (do return [← expression])
    if ← hasAll [.NOT, .NULL] then pure () else skipAny [.NULL]
    return parts ++ path ++ otherwise

/-- The rows of an XML document. -/
def xmlTable : Phrase (List Expr) :=
  paren do
    let spaces ← after .XMLNAMESPACES do
      let spaces ← parenList do
        let e ← expression
        expect .AS
        let _ ← ident
        return e
      mark .comma
      return spaces
    let row ← expression
    let passed ← after .PASSING <| list do
      if ← has .BY then skipAny [.VALUE]
      labelled
    expect .COLUMNS
    return spaces ++ [row] ++ passed ++ (← list xmlColumn).flatten

/-! ### Named tables -/

/-- Part of a table's rows taken at random, or all of them. -/
def sample : Phrase (List Expr) := do
  if (← hasAny [.TABLESAMPLE, .SAMPLE]).isNone then return []
  skipAny [.BERNOULLI, .ROW, .SYSTEM, .BLOCK]
  let bracketed := (← attempt (opening .round)).isSome
  let bucket ← if bracketed then has .BUCKET else pure false
  let quantity ← if bucket then bucketRest else amount
  if bracketed then closing .round
  if (← hasAny [.REPEATABLE, .SEED]).isSome then paren numeral
  let skipped ← after .OFFSET (do return [← expression])
  return quantity ++ skipped
where
  /-- One bucket out of some, after the word. -/
  bucketRest : Phrase (List Expr) := do
    numeral
    expectAll [.OUT, .OF]
    numeral
    after .ON (do return [← expression])
  /-- How many rows; a word may tell it too. -/
  amount : Phrase (List Expr) := do
    let quantity ←
      match ← attempt expression with
      | some e => pure [e]
      | none => do
        let _ ← word
        pure []
    skipAny [.ROWS, .PERCENT]
    return quantity

/-- Arguments of a function that makes a table. -/
def tableArguments : Phrase (List Expr) := do return (← parenListOrNone argument).flatten

/-- A named table, or a function that makes one. -/
def namedTable : Phrase Factor := do
  let n ← name
  let given ←
    if ← ahead (opens .round) then pure (some (← tableArguments)) else pure none
  skipAll [.WITH, .ORDINALITY]
  let (_, columns) ← tableLabel
  let hints ←
    if ← ahead (fun ls => spells .WITH ls && opens .round (ls.drop 1)) then
      after .WITH (parenList expression)
    else pure []
  let size ← sample
  let aside := columns ++ hints ++ size
  turned <|
    match given with
    | some parts => .function n parts aside
    | none => .table n aside

/-! ### Joins -/

/-- A table and the joins after it. -/
def joined : Phrase Joined := do
  let first ← table
  let joins ← series do
    skipAny [.GLOBAL]
    join
  return ⟨first, joins⟩
where
  /-- What a join matches its rows by. -/
  condition : Phrase (List Expr) := do
    if ← has .ON then return [← expression]
    aside .USING (parenList name)
    return []
  /-- The words between the two tables of a join, if a join comes next. -/
  joinWords : Phrase Bool := do
    match ← ahead nextKeyword with
    | some .INNER | some .JOIN => do
      skipAny [.INNER]
      expect .JOIN
      return true
    | some .LEFT | some .RIGHT => do
      anything
      skipAny [.OUTER, .SEMI, .ANTI]
      expect .JOIN
      return true
    | some .ANTI | some .SEMI => do
      anything
      expect .JOIN
      return true
    | some .FULL => do
      anything
      skipAny [.OUTER]
      expect .JOIN
      return true
    | some .STRAIGHT_JOIN => do
      anything
      return true
    | some .OUTER => .miss
    | _ => return false
  join : Phrase (Option Join) := do
    if ← has .CROSS then
      let _ ← anyOf [.JOIN, .APPLY]
      return some ⟨← table, []⟩
    if ← has .OUTER then
      expect .APPLY
      return some ⟨← table, []⟩
    if ← has .ASOF then
      expect .JOIN
      let t ← table
      expect .MATCH_CONDITION
      let closest ← paren expression
      return some ⟨t, closest :: (← condition)⟩
    let natural ← has .NATURAL
    if ← joinWords then
      let t ← table
      return some ⟨t, ← if natural then pure [] else condition⟩
    else if natural then .miss
    else return none

/-- The tables of a `FROM` list. -/
def tables : Phrase (List Joined) := list joined

/-! ### Items -/

/-- A query in brackets with its alias. -/
def derived : Phrase Factor := do
  let q ← paren query
  let (label, columns) ← tableLabel
  return .derived q label columns

/-- Joined tables in brackets. A table alone does not stand in brackets. -/
def nestedJoin : Phrase Factor := do
  opening .round
  let j ← joined
  let alone := match j.joins, j.first with
    | [], .joined .. => false
    | [], _ => true
    | _ :: _, _ => false
  if alone then .miss
  else
    closing .round
    return .joined j (← tableLabel).2

/-- The reader of a table that a word before an opening bracket asks for, if it asks for
one. -/
def documentTable (ls : List Lexeme) : Option Keyword :=
  if opens .round (ls.drop 1) then
    (nextKeyword ls).bind fun k =>
      if [Keyword.JSON_TABLE, .OPENJSON, .XMLTABLE].contains k then some k else none
  else none

/-- One item of a `FROM` list. -/
def tableItem : Phrase Factor := do
  if ← has .LATERAL then
    if ← ahead (opens .round) then derived
    else
      let _ ← name
      other tableArguments
  else if ← has .TABLE then other (do return [← paren expression])
  else if ← ahead (opens .round) then
    match ← attempt derived with
    | some d => turned d
    | none => nestedJoin
  else if ← has .UNNEST then
    let parts ← parenList expression
    skipAll [.WITH, .ORDINALITY]
    let (_, columns) ← tableLabel
    if ← has .WITH then aside .OFFSET (label endsItem)
    return .other (columns ++ parts)
  else
    match ← ahead documentTable with
    | some .JSON_TABLE => do
      anything
      other jsonTable
    | some .OPENJSON => do
      anything
      other jsonMembers
    | some _ => do
      anything
      other xmlTable
    | none => namedTable
where
  /-- An item of which only the expressions are kept, with its alias. -/
  other (p : Phrase (List Expr)) : Phrase Factor := do
    let parts ← p
    let (_, columns) ← tableLabel
    return .other (parts ++ columns)

end QueryGateway.Sql.Grammar
