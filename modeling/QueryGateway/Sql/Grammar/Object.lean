import QueryGateway.Sql.Grammar.Relation

/-! The statements that make schemas, sequences, domains and other objects that hold no rows
and run no code. -/
namespace QueryGateway.Sql.Grammar

open Phrase Ast

/-! ### Places -/

/-- A new schema. -/
def newSchema : Phrase Statement := do
  let _ ← ifNotExists
  if ← has .AUTHORIZATION then unkept ident
  else
    let _ ← name
    aside .AUTHORIZATION ident
  let collation ← afterAll [.DEFAULT, .COLLATE] (do return [← expression])
  let written ← withOptions
  let properties ← after .OPTIONS options
  aside .CLONE name
  return .createOther "SCHEMA" (written ++ properties ++ collation)

/-- A new database. -/
def newDatabase : Phrase Statement := do
  let _ ← ifNotExists
  let _ ← name
  let _ ← series do
    match ← hasAny [.LOCATION, .MANAGEDLOCATION] with
    | some _ =>
      literalText
      return some ()
    | none => return none
  aside .CLONE name
  return .createOther "DATABASE" []

/-- A new extension. -/
def newExtension : Phrase Statement := do
  let _ ← ifNotExists
  let _ ← ident
  if ← has .WITH then
    aside .SCHEMA ident
    aside .VERSION ident
    skipAny [.CASCADE]
  return .createOther "EXTENSION" []

/-- A server that keeps tables elsewhere. -/
def newServer : Phrase Statement := do
  let _ ← ifNotExists
  let _ ← name
  aside .TYPE ident
  aside .VERSION ident
  expectAll [.FOREIGN, .DATA, .WRAPPER]
  let _ ← name
  aside .OPTIONS (parenList (do let _ ← ident; ident))
  return .createOther "SERVER" []

/-- A connection to another database. -/
def newConnector : Phrase Statement := do
  let _ ← ifNotExists
  let _ ← ident
  aside .TYPE literalText
  aside .URL literalText
  if ← has .COMMENT then
    let _ ← hasMark .equal
    remark
  return .createOther "CONNECTOR" (← optionsAfter [.WITH, .DCPROPERTIES])

/-! ### Values -/

/-- A new sequence. -/
def newSequence : Phrase Statement := do
  let _ ← ifNotExists
  let _ ← name
  let parts ← after .AS typeParts
  sequenceOptions
  if ← hasAll [.OWNED, .BY] then
    if ← has .NONE then pure () else unkept name
  return .createOther "SEQUENCE" parts

/-- A new domain. -/
def newDomain : Phrase Statement := do
  let _ ← name
  expect .AS
  let parts ← typeParts
  aside .COLLATE ident
  let value ← after .DEFAULT (do return [← expression])
  let checks ← series tableConstraint
  return .createOther "DOMAIN" (parts ++ value ++ checks.flatten)

/-! ### Access -/

/-- The condition on the rows that may be seen, and on those that may be written. -/
def policyConditions : Phrase (List Expr) := do
  let seen ← after .USING (do return [← paren expression])
  let written ← afterAll [.WITH, .CHECK] (do return [← paren expression])
  return seen ++ written

/-- A new policy. -/
def newPolicy : Phrase Statement := do
  let _ ← ident
  expect .ON
  let _ ← name
  aside .AS (anyOf [.PERMISSIVE, .RESTRICTIVE])
  aside .FOR (anyOf [.ALL, .SELECT, .INSERT, .UPDATE, .DELETE])
  aside .TO idents
  return .createOther "POLICY" (← policyConditions)

/-- A new secret. Where it is kept may stand in place of its name or behind it. -/
def newSecret : Phrase Statement := do
  let _ ← ifNotExists
  if ← ahead (opens .round) then pure ()
  else
    let stored ← if ← has .IN then identAtAll else do
      skip
      pure false
    if !stored then
      if ← has .IN then skip
  paren do
    expect .TYPE
    let _ ← ident
    if ← hasMark .comma then unkept (list (do let _ ← ident; ident))
  return .createOther "SECRET" []

end QueryGateway.Sql.Grammar
