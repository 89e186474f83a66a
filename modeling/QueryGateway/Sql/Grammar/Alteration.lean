import QueryGateway.Sql.Grammar.Definition

/-! What `ALTER` changes. -/
namespace QueryGateway.Sql.Grammar

open Phrase Ast

/-! ### Changes to a table -/

/-- A part of a table, by the values of its columns. -/
def partitionValues : Phrase (List Expr) := parenList expression

/-- What `ADD` adds to a table. -/
def tableAddition : Phrase (List Expr) := do
  match ← tableConstraint with
  | some parts =>
    skipAll [.NOT, .VALID]
    return parts
  | none =>
    let _ ← ifNotExists
    let parts ← series do
      if ← has .PARTITION then return some (← partitionValues) else return none
    if !parts.isEmpty then return parts.flatten
    else
      skipAny [.COLUMN]
      let _ ← ifNotExists
      columnDefinition

/-- An old name and a new one. -/
def newName : Phrase Unit := do
  let _ ← ident
  expect .TO
  let _ ← ident

/-- A new name for a table, or for something in it. -/
def tableRenaming : Phrase Unit := do
  if ← has .CONSTRAINT then newName
  else if (← hasAny [.TO, .AS]).isSome then unkept name
  else
    skipAny [.COLUMN]
    newName

/-- What `DROP` drops from a table, one thing at a time. -/
def tableRemoval : Phrase (List Expr) := do
  if ← hasOneOf [[.IF, .EXISTS, .PARTITION], [.PARTITION]] then partitionValues
  else
    if ← has .CONSTRAINT then
      ifExists
      let _ ← ident
      dropBehavior
    else if ← hasAll [.PRIMARY, .KEY] then dropBehavior
    else if ← hasAll [.FOREIGN, .KEY] then
      let _ ← ident
      dropBehavior
    else if ← has .INDEX then unkept ident
    else
      skipAny [.PROJECTION]
      if ← hasAll [.CLUSTERING, .KEY] then pure ()
      else
        skipAny [.COLUMN]
        ifExists
        let _ ← ident
        dropBehavior
    return []

/-- What `ALTER` alters in a column. -/
def columnChange : Phrase (List Expr) := do
  skipAny [.COLUMN]
  let _ ← ident
  if ← hasOneOf [[.SET, .NOT, .NULL], [.DROP, .NOT, .NULL]] then return []
  else if ← hasAll [.SET, .DEFAULT] then return [← expression]
  else if ← hasAll [.DROP, .DEFAULT] then return []
  else if ← hasOneOf [[.SET, .DATA, .TYPE], [.TYPE]] then
    let parts ← typeParts
    return parts ++ (← after .USING (do return [← expression]))
  else
    expectAll [.ADD, .GENERATED]
    if ← has .ALWAYS then pure () else skipAll [.BY, .DEFAULT]
    expectAll [.AS, .IDENTITY]
    identity
    return []

/-- The whole of a column told anew. -/
def columnReplacement : Phrase (List Expr) := do
  let _ ← ident
  let parts ← typeParts
  return parts ++ (← columnOptions)

/-- Something that can be turned on and off. -/
def mechanism : Phrase Unit := do
  let _ ← anyOf [.RULE, .TRIGGER]
  let _ ← ident

/-- A change of names, or of what a table does by itself; whether it is one. -/
def nameOrMechanism : Phrase Bool := do
  if ← has .RENAME then
    tableRenaming
    return true
  else if ← has .DISABLE then
    if ← hasAll [.ROW, .LEVEL, .SECURITY] then pure () else mechanism
    return true
  else if ← has .ENABLE then
    if ← hasAll [.ROW, .LEVEL, .SECURITY] then pure ()
    else
      skipAny [.ALWAYS, .REPLICA]
      mechanism
    return true
  else return false

/-- A change of what a table has as a whole; whether it is one. -/
def propertyChange : Phrase Bool := do
  if ← has .SWAP then
    expect .WITH
    let _ ← name
    return true
  else if ← hasOneOf [[.OWNER, .TO], [.VALIDATE, .CONSTRAINT]] then
    let _ ← ident
    return true
  else if ← hasOneOf [[.SUSPEND, .RECLUSTER], [.RESUME, .RECLUSTER]] then return true
  else if ← has .AUTO_INCREMENT then
    let _ ← hasMark .equal
    numeral
    return true
  else if ← hasAll [.REPLICA, .IDENTITY] then
    if (← hasAny [.NONE, .FULL, .DEFAULT]).isSome then pure ()
    else
      expectAll [.USING, .INDEX]
      let _ ← ident
    return true
  else changeMethod

/-- One change to a table. Two pairs of words that are changes elsewhere are passed over. -/
def tableChange : Phrase (List Expr) := do
  if ← has .ADD then tableAddition
  else if ← nameOrMechanism then return []
  else
    skipAll [.CLEAR, .PROJECTION]
    skipAll [.MATERIALIZE, .PROJECTION]
    if ← has .DROP then tableRemoval
    else if ← has .PARTITION then
      let before ← partitionValues
      expectAll [.RENAME, .TO, .PARTITION]
      return before ++ (← partitionValues)
    else if ← has .CHANGE then
      skipAny [.COLUMN]
      let _ ← ident
      columnReplacement
    else if ← has .MODIFY then
      skipAny [.COLUMN]
      columnReplacement
    else if ← has .ALTER then columnChange
    else if ← hasAll [.CLUSTER, .BY] then parenList expression
    else if ← propertyChange then return []
    else
      expect .SET
      skipAny [.TBLPROPERTIES]
      parenList option

/-- Changes to a table. -/
def tableAlteration (object : String) : Phrase Statement := do
  ifExists
  skipAny [.ONLY]
  let _ ← name
  let _ ← onCluster
  let changes ← list tableChange
  if ← hasOneOf [[.LOCATION], [.SET, .LOCATION]] then unkept ident
  return .alter object changes.flatten

/-! ### Changes to other objects -/

/-- Another query for a view. -/
def viewChange : Phrase (List Expr) := do
  let _ ← name
  columnsIfAny
  let written ← withOptions
  expect .AS
  return .query (← query) :: written

/-- A change to a schema. -/
def schemaChange : Phrase (List Expr) := do
  ifExists
  let _ ← name
  if ← hasAll [.SET, .OPTIONS] then options
  else if ← hasAll [.SET, .DEFAULT, .COLLATE] then return [← expression]
  else if ← hasAll [.ADD, .REPLICA] then
    let _ ← ident
    after .OPTIONS options
  else
    if ← hasAll [.RENAME, .TO] then unkept name
    else if ← hasOneOf [[.DROP, .REPLICA], [.OWNER, .TO]] then unkept ident
    else .miss
    return []

/-- A change to a policy. -/
def policyChange : Phrase (List Expr) := do
  let _ ← ident
  expect .ON
  let _ ← name
  if ← has .RENAME then
    expect .TO
    let _ ← ident
    return []
  else
    aside .TO idents
    policyConditions

/-- A change to a connection to another database. -/
def connectorChange : Phrase (List Expr) := do
  let _ ← ident
  expect .SET
  let properties ← optionsAfter [.DCPROPERTIES]
  aside .URL literalText
  if ← hasOneOf [[.OWNER, .USER], [.OWNER, .ROLE]] then unkept ident
  return properties

/-- What `ALTER` changes. -/
def alteration : Phrase Statement := do
  match ← anyOf
    [.VIEW, .TYPE, .TABLE, .INDEX, .ROLE, .POLICY, .CONNECTOR, .ICEBERG, .SCHEMA, .USER,
     .OPERATOR] with
  | .TABLE => tableAlteration "TABLE"
  | .ICEBERG => do
    expect .TABLE
    tableAlteration "ICEBERG"
  | .VIEW => return .alter "VIEW" (← viewChange)
  | .TYPE => do
    typeChange
    return .alter "TYPE" []
  | .INDEX => do
    let _ ← name
    expectAll [.RENAME, .TO]
    let _ ← name
    return .alter "INDEX" []
  | .ROLE => return .alter "ROLE" (← roleChange)
  | .POLICY => return .alter "POLICY" (← policyChange)
  | .CONNECTOR => return .alter "CONNECTOR" (← connectorChange)
  | .SCHEMA => return .alter "SCHEMA" (← schemaChange)
  | .USER => do
    userChange
    return .alter "USER" []
  | _ => return .alter "OPERATOR" (← operatorChange)

end QueryGateway.Sql.Grammar
