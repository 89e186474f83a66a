import QueryGateway.Sql.Grammar.Query

/-! Statements about a session: transactions, settings, cursors, and what the database tells
of itself. Each is read after its first word. -/
namespace QueryGateway.Sql.Grammar

open Phrase Ast

/-! ### Transactions -/

/-- The mode of a transaction; whether there is one. -/
def transactionMode : Phrase Bool := do
  if ← hasAll [.ISOLATION, .LEVEL] then
    let given ← hasOneOf
      [[.READ, .UNCOMMITTED], [.READ, .COMMITTED], [.REPEATABLE, .READ], [.SERIALIZABLE],
       [.SNAPSHOT]]
    if given then return true else .miss
  else hasOneOf [[.READ, .ONLY], [.READ, .WRITE]]

/-- The modes of a transaction, with or without commas between them. Behind a comma one more
must come. -/
def transactionModes : Phrase Unit := do
  let _ ← loop false fun due => do
    if ← transactionMode then return some (← hasMark .comma)
    else if due then .miss
    else return none

/-- A transaction begun, by the shorter word. -/
def beginning : Phrase Unit := do
  skipAny [.TRANSACTION, .WORK]
  transactionModes

/-- The words after the one that ends a transaction. -/
def transactionEnd : Phrase Unit := do
  skipAny [.TRANSACTION, .WORK]
  if ← has .AND then
    skipAny [.NO]
    expect .CHAIN

/-- A transaction undone, or a part of it. -/
def rollback : Phrase Unit := do
  transactionEnd
  aside .TO (do skipAny [.SAVEPOINT]; ident)

/-! ### Settings -/

/-- Values with commas between them. -/
def settingValues : Phrase (List Expr) :=
  list do
    if ← ahead startsQuery then return .query (← query) else expression

/-- The sign between a setting and its value; whether there is one. -/
def assignmentSign : Phrase Bool := do
  if ← hasMark .equal then return true else has .TO

/-- A setting whose name says what it takes; nothing if it is any other. -/
def namedSetting (ranged : Bool) : Phrase (Option (List Expr)) := do
  if ← hasOneOf [[.TIME, .ZONE], [.TIMEZONE]] then
    if ← assignmentSign then return some (← settingValues) else return some [← expression]
  else if ← has .NAMES then
    if ← has .DEFAULT then pure ()
    else
      let _ ← ident
      aside .COLLATE literalText
    return some []
  else if ← has .CHARACTERISTICS then
    expectAll [.AS, .TRANSACTION]
    transactionModes
    return some []
  else if ← has .TRANSACTION then
    if ← has .SNAPSHOT then unkept constant else transactionModes
    return some []
  else if ← has .AUTHORIZATION then
    if ranged then
      unkept ident
      return some []
    else .miss
  else return none

/-- A setting, a role taken on, or the modes of a transaction. -/
def setting : Phrase (List Expr) := do
  let ranged ←
    if ← has .HIVEVAR then do
      mark .colon
      pure false
    else pure (← hasAny [.SESSION, .LOCAL, .GLOBAL]).isSome
  if (← attempt (do expect .ROLE; ident)).isSome then return []
  else
    match ← namedSetting ranged with
    | some parts => return parts
    | none => do
      let _ ← name
      if ← assignmentSign then settingValues else .miss

/-! ### What the database tells -/

/-- A choice of what is shown, or nothing. -/
def shownFilter : Phrase (List Expr) := do
  if (← hasAny [.LIKE, .ILIKE]).isSome then
    literalText
    return []
  else if ← has .WHERE then return [← expression]
  else
    let _ ← attempt text
    return []

/-- The place of what is shown, after its first word. -/
def shownPlace : Phrase Unit := do
  match ← hasAny [.ACCOUNT, .DATABASE, .SCHEMA, .TABLE, .VIEW] with
  | some k =>
    let ended ← ahead fun ls => spellsAll [.STARTS, .WITH] ls || spells .LIMIT ls
    if ended && [Keyword.DATABASE, .SCHEMA].contains k then pure ()
    else
      let _ ← attempt name
  | none =>
    let _ ← name
    if (← hasAny [.FROM, .IN]).isSome then unkept ident

/-- Which objects are shown. -/
def shownObjects : Phrase (List Expr) := do
  if (← hasAny [.FROM, .IN]).isSome then shownPlace
  let chosen ← shownFilter
  asideAll [.STARTS, .WITH] constant
  let count ← limit
  aside .FROM constant
  return chosen ++ count

/-- A setting to show: whatever stands before the end of the statement or a sign of
equality. -/
def shownSetting : Phrase Unit :=
  loop () fun _ => do
    if ← ahead (fun ls => endsHere ls || marks .equal ls) then return none
    anything
    return some ()

/-- Something to show. -/
def shown : Phrase (List Expr) := do
  skipAny [.TERSE]
  let extended ← has .EXTENDED
  let full ← has .FULL
  skipAny [.SESSION]
  skipAny [.GLOBAL]
  skipAny [.EXTERNAL]
  if ← hasOneOf [[.COLUMNS], [.FIELDS], [.TABLES], [.MATERIALIZED, .VIEWS], [.VIEWS]] then
    shownObjects
  else if ← has .FUNCTIONS then shownFilter
  else if extended || full then .miss
  else if ← has .CREATE then
    let _ ← anyOf [.TABLE, .TRIGGER, .FUNCTION, .PROCEDURE, .EVENT, .VIEW]
    let _ ← name
    return []
  else if ← has .COLLATION then shownFilter
  else
    skipAny [.VARIABLES]
    skipAny [.STATUS]
    if (← hasAny [.DATABASES, .SCHEMAS]).isSome then
      skipAny [.HISTORY]
      shownObjects
    else if ← hasOneOf [[.CHARACTER, .SET], [.CHARSET]] then shownFilter
    else
      shownSetting
      return []

/-! ### Cursors -/

/-- A new cursor. -/
def declaration : Phrase (List Expr) := do
  let _ ← ident
  skipAny [.BINARY]
  skipAny [.INSENSITIVE, .ASENSITIVE]
  if ← has .SCROLL then pure () else skipAll [.NO, .SCROLL]
  expect .CURSOR
  if (← hasAny [.WITH, .WITHOUT]).isSome then expect .HOLD
  expect .FOR
  return [.query (← query)]

/-- How a cursor moves. -/
def fetchCommand : Phrase Unit := do
  match ← hasAny [.NEXT, .PRIOR, .FIRST, .LAST, .ALL, .FORWARD, .BACKWARD, .ABSOLUTE, .RELATIVE]
  with
  | some .FORWARD | some .BACKWARD => if ← has .ALL then pure () else numeral
  | some .ABSOLUTE | some .RELATIVE => numeral
  | some _ => pure ()
  | none => numeral
  let _ ← anyOf [.FROM, .IN]
  let _ ← ident
  aside .INTO name

/-! ### Prepared statements -/

/-- A prepared statement. -/
def preparation : Phrase (List Expr) := do
  let _ ← ident
  let types ← parenIfAny (list typeParts)
  expect .AS
  return (types.getD []).flatten ++ (← statement).parts

/-- The run of a prepared statement. -/
def execution : Phrase (List Expr) := do
  let _ ← name
  let given ←
    if ← ahead (opens .round) then parenListOrNone expression
    else if ← ahead (fun ls => endsHere ls || spellsAny [.USING, .OUTPUT, .DEFAULT] ls) then
      pure []
    else expressions
  aside .INTO idents
  let passed ← after .USING (list labelled)
  skipAny [.OUTPUT]
  skipAny [.DEFAULT]
  return given ++ passed

end QueryGateway.Sql.Grammar
