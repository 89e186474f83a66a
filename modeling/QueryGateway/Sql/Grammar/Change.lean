import QueryGateway.Sql.Grammar.Query

/-! Statements that change the rows of a table. Each is read after its first word. -/
namespace QueryGateway.Sql.Grammar

open Phrase Ast

/-! ### Shared clauses -/

/-- A column, or several in brackets, and its new value. -/
def assignment : Phrase Expr := do
  if ← ahead (opens .round) then
    let _ ← parenList name
  else
    let _ ← name
  mark .equal
  expression

/-- Assignments with commas between them. -/
def assignments : Phrase (List Expr) := list assignment

/-- `RETURNING` and its items, or nothing. -/
def returning : Phrase (List Expr) := after .RETURNING selectItems

/-- What happens instead of a conflict, or nothing. -/
def orElse : Phrase Unit := do
  let given ← hasOneOf
    [[.OR, .REPLACE], [.OR, .ROLLBACK], [.OR, .ABORT], [.OR, .FAIL], [.OR, .IGNORE]]
  if given then pure () else skipAny [.REPLACE]

/-- The format of the files in which a table is kept. -/
def fileFormat : Phrase Unit :=
  unkept <| anyOf [.AVRO, .JSONFILE, .ORC, .PARQUET, .RCFILE, .SEQUENCEFILE, .TEXTFILE]

/-! ### Insertions -/

/-- What `ON CONFLICT` does, or nothing. -/
def conflict : Phrase (List Expr) := do
  if ← has .ON then
    if ← has .CONFLICT then
      if ← hasAll [.ON, .CONSTRAINT] then
        let _ ← name
      else columnsIfAny
      expect .DO
      if ← has .NOTHING then return []
      else
        expectAll [.UPDATE, .SET]
        let changes ← assignments
        return changes ++ (← whereClause)
    else
      expectAll [.DUPLICATE, .KEY, .UPDATE]
      assignments
  else return []

/-- An insertion into a table. -/
def tableInsertion : Phrase Insert := do
  skipAny [.TABLE]
  let table ← name
  aside .AS ident
  if ← hasAll [.DEFAULT, .VALUES] then
    let changes ← conflict
    return ⟨table, none, changes, ← returning, []⟩
  let partition ←
    if ← ahead (fun ls => opens .round ls && spells .SELECT (ls.drop 1)) then pure []
    else do
      columnsIfAny
      after .PARTITION (parenList expression)
  let source ← query
  let changes ← conflict
  return ⟨table, some source, changes, ← returning, partition⟩

/-- Rows written to files. -/
def fileInsertion : Phrase Query := do
  literalText
  asideAll [.STORED, .AS] fileFormat
  query

/-- An insertion into a table, or rows written to files. -/
def insertion : Phrase (Insert ⊕ Query) := do
  orElse
  skipAny [.OVERWRITE]
  skipAny [.INTO]
  skipAny [.LOCAL]
  if ← has .DIRECTORY then return .inr (← fileInsertion) else return .inl (← tableInsertion)

/-- An insertion as the body of a query. -/
def insertionBody : Phrase Body := do
  match ← insertion with
  | .inl i => return .insert i
  | .inr q => return .command "INSERT" q

/-! ### Updates and deletions -/

/-- An update. The source may stand before the assignments or after them. -/
def updating : Phrase Update := do
  orElse
  let target ← joined
  let before ← if ← has .FROM then pure (some (← tables)) else pure none
  expect .SET
  let changes ← assignments
  let source ←
    match before with
    | some source => pure source
    | none => after .FROM tables
  let condition ← whereClause
  let given ← returning
  let aside ← after .LIMIT (do return [← expression])
  return ⟨target, source, changes, condition, given, aside⟩

/-- A deletion. -/
def deletion : Phrase Delete := do
  let listed ←
    if ← has .FROM then pure []
    else do
      let listed ← names
      expect .FROM
      pure listed
  let targets ← tables
  let others ← after .USING tables
  let condition ← whereClause
  let given ← returning
  let order ← orderBy
  let count ← limit
  return ⟨listed, targets, others, condition, given, order ++ count⟩

/-! ### Merges -/

/-- What a merge inserts for a row of the source that has no match. -/
def mergeInsertion : Phrase (List Expr) := do
  expect .INSERT
  columnsIfAny
  expect .VALUES
  rows

/-- What a merge does to a row of the target. -/
def mergeChange : Phrase (List Expr) := do
  if ← has .UPDATE then
    expect .SET
    assignments
  else
    expect .DELETE
    return []

/-- One case of a merge, after its first word: which rows it is for, and what is done with
them. Rows of the source that have no match can only be inserted, and all others only
changed. -/
def mergeCase : Phrase (List Expr) := do
  let unmatched ← has .NOT
  expect .MATCHED
  let ofTarget ← if unmatched then hasAll [.BY, .SOURCE] else pure false
  let ofSource := unmatched && !ofTarget
  if ofSource then skipAll [.BY, .TARGET]
  let condition ← after .AND (do return [← expression])
  expect .THEN
  return condition ++ (← if ofSource then mergeInsertion else mergeChange)

/-- What a merge gives back of the rows that it has changed. -/
def mergeOutput : Phrase (List Expr) := do
  if ← has .OUTPUT then
    let items ← selectItems
    aside .INTO intoTable
    return items
  else returning

/-- A merge of one table into another. -/
def merging : Phrase (List Expr) := do
  skipAny [.INTO]
  let target ← table
  expect .USING
  let source ← table
  expect .ON
  let condition ← expression
  let cases ← series (do if ← has .WHEN then return some (← mergeCase) else return none)
  return target.parts ++ source.parts ++ condition :: cases.flatten ++ (← mergeOutput)

end QueryGateway.Sql.Grammar
