import QueryGateway.Sql.Grammar.Basic

/-! Statements that give rights and take them. Each is read after its first word. -/
namespace QueryGateway.Sql.Grammar

open Phrase Ast

/-! ### Rights -/

/-- Rights of several words, and those of one that nothing follows. -/
def plainRights : List (List Keyword) :=
  [[.IMPORTED, .PRIVILEGES], [.ADD, .SEARCH, .OPTIMIZATION], [.ATTACH, .LISTING],
   [.ATTACH, .POLICY], [.BIND, .SERVICE, .ENDPOINT], [.EVOLVE, .SCHEMA], [.IMPORT, .SHARE],
   [.OVERRIDE, .SHARE, .RESTRICTIONS], [.PURCHASE, .DATA, .EXCHANGE, .LISTING],
   [.RESOLVE, .ALL], [.READ, .SESSION], [.APPLYBUDGET], [.AUDIT], [.CONNECT], [.DELETE],
   [.FAILOVER], [.OPERATE], [.READ], [.REPLICATE], [.TEMPORARY], [.TRIGGER], [.TRUNCATE],
   [.USAGE], [.OWNERSHIP], [.DROP]]

/-- What may be applied. -/
def applicableKinds : List (List Keyword) :=
  [[.AGGREGATION, .POLICY], [.AUTHENTICATION, .POLICY], [.JOIN, .POLICY], [.MASKING, .POLICY],
   [.PACKAGES, .POLICY], [.PASSWORD, .POLICY], [.PROJECTION, .POLICY],
   [.ROW, .ACCESS, .POLICY], [.SESSION, .POLICY], [.TAG]]

/-- What may be created. -/
def creatableKinds : List (List Keyword) :=
  [[.APPLICATION, .PACKAGE], [.COMPUTE, .POOL], [.DATA, .EXCHANGE, .LISTING],
   [.EXTERNAL, .VOLUME], [.FAILOVER, .GROUP], [.NETWORK, .POLICY], [.ORGANIZATION, .LISTING],
   [.REPLICATION, .GROUP], [.ACCOUNT], [.APPLICATION], [.DATABASE], [.INTEGRATION], [.ROLE],
   [.SCHEMA], [.SHARE], [.USER], [.WAREHOUSE]]

/-- What may be run. -/
def runnableKinds : List (List Keyword) :=
  [[.DATA, .METRIC, .FUNCTION], [.MANAGED, .ALERT], [.MANAGED, .TASK], [.ALERT], [.TASK]]

/-- What may be managed. -/
def manageableKinds : List (List Keyword) :=
  [[.ACCOUNT, .SUPPORT, .CASES], [.EVENT, .SHARING], [.LISTING, .AUTO, .FULFILLMENT], [.GRANTS],
   [.RELEASES], [.VERSIONS], [.WAREHOUSES]]

/-- What may be modified. -/
def modifiableKinds : List (List Keyword) :=
  [[.LOG, .LEVEL], [.TRACE, .LEVEL], [.SESSION, .LOG, .LEVEL], [.SESSION, .TRACE, .LEVEL]]

/-- What may be monitored. -/
def monitoredKinds : List (List Keyword) := [[.EXECUTION], [.SECURITY], [.USAGE]]

/-- One right. -/
def right : Phrase Unit := do
  if ← hasAll [.DATABASE, .ROLE] then unkept name
  else if ← hasOneOf plainRights then pure ()
  else
    match ← anyOf
      [.APPLY, .CREATE, .EXEC, .EXECUTE, .INSERT, .MANAGE, .MODIFY, .MONITOR, .REFERENCES, .ROLE,
       .SELECT, .UPDATE] with
    | .INSERT | .REFERENCES | .SELECT | .UPDATE => columnsIfAny
    | .ROLE => unkept name
    | .APPLY => oneOf applicableKinds
    | .MANAGE => oneOf manageableKinds
    | .CREATE => unkept (hasOneOf creatableKinds)
    | .MODIFY => unkept (hasOneOf modifiableKinds)
    | .MONITOR => unkept (hasOneOf monitoredKinds)
    | _ => unkept (hasOneOf runnableKinds)
where
  /-- One of the kinds. -/
  oneOf (kinds : List (List Keyword)) : Phrase Unit := do
    if ← hasOneOf kinds then return () else .miss

/-- The rights that are given or taken. -/
def rights : Phrase Unit := do
  if ← has .ALL then skipAny [.PRIVILEGES] else unkept (list right)

/-! ### What the rights are on -/

/-- The words for all objects of a kind in some places, and for all that will be there. -/
def wholeKinds : List (List Keyword) :=
  [[.ALL, .TABLES, .IN, .SCHEMA], [.ALL, .EXTERNAL, .TABLES, .IN, .SCHEMA],
   [.ALL, .VIEWS, .IN, .SCHEMA], [.ALL, .MATERIALIZED, .VIEWS, .IN, .SCHEMA],
   [.ALL, .SEQUENCES, .IN, .SCHEMA], [.ALL, .FUNCTIONS, .IN, .SCHEMA],
   [.FUTURE, .SCHEMAS, .IN, .DATABASE], [.FUTURE, .TABLES, .IN, .SCHEMA],
   [.FUTURE, .EXTERNAL, .TABLES, .IN, .SCHEMA], [.FUTURE, .VIEWS, .IN, .SCHEMA],
   [.FUTURE, .MATERIALIZED, .VIEWS, .IN, .SCHEMA], [.FUTURE, .SEQUENCES, .IN, .SCHEMA],
   [.RESOURCE, .MONITOR], [.COMPUTE, .POOL], [.FAILOVER, .GROUP], [.REPLICATION, .GROUP],
   [.EXTERNAL, .VOLUME]]

/-- A name in which a star may stand for a part. -/
def namePattern : Phrase Unit :=
  unkept <| separated (hasMark .dot) (do if ← hasMark .star then pure () else unkept ident)

/-- What the rights are on. -/
def rightsObjects : Phrase (List Expr) := do
  if ← hasOneOf wholeKinds then
    let _ ← names
    return []
  else
    let kind ← hasAny
      [.SEQUENCE, .DATABASE, .SCHEMA, .TABLE, .VIEW, .WAREHOUSE, .INTEGRATION, .USER, .CONNECTION,
       .PROCEDURE, .FUNCTION]
    let _ ← list namePattern
    if [some Keyword.PROCEDURE, some .FUNCTION].contains kind then
      return ((← parenIfAny (listOrNone .round typeParts)).getD []).flatten
    else return []

/-! ### Who is given rights -/

/-- One to whom rights are given, after a word for the kind if there is one; the rights of
everyone need no name. The word before it holds on; whether it is that for everyone. -/
def grantee (everyone : Bool) : Phrase Bool := do
  let everyone ←
    if ← hasOneOf [[.ROLE], [.USER], [.SHARE], [.GROUP]] then pure false
    else do
      if ← has .PUBLIC then pure true
      else do
        if ← hasOneOf [[.DATABASE, .ROLE], [.APPLICATION, .ROLE], [.APPLICATION]] then pure false
        else pure everyone
  if !everyone then
    let _ ← name
    if ← hasMark .colon then unkept ident
  return everyone

/-- Who is given rights, or loses them. -/
def grantees : Phrase Unit := do
  let everyone ← grantee false
  let _ ← loop everyone fun everyone => do
    if ← hasMark .comma then return some (← grantee everyone) else return none

/-! ### Statements -/

/-- Rights, and what they are on; nothing stands for no object. -/
def rightsOnObjects : Phrase (Option (List Expr)) := do
  rights
  if ← has .ON then return some (← rightsObjects) else return none

/-- Rights given. -/
def grant : Phrase (List Expr) := do
  let parts ← rightsOnObjects
  expect .TO
  grantees
  skipAll [.WITH, .GRANT, .OPTION]
  if ← hasAll [.COPY, .CURRENT, .GRANTS] then pure () else skipAll [.REVOKE, .CURRENT, .GRANTS]
  aside .AS ident
  asideAll [.GRANTED, .BY] ident
  return parts.getD []

/-- Rights taken. -/
def revoke : Phrase (List Expr) := do
  let parts ← rightsOnObjects
  expect .FROM
  grantees
  asideAll [.GRANTED, .BY] ident
  skipAny [.CASCADE, .RESTRICT]
  return parts.getD []

/-- Rights denied. They are rights on some object. -/
def deny : Phrase (List Expr) := do
  match ← rightsOnObjects with
  | none => .miss
  | some parts => do
    expect .TO
    grantees
    skipAny [.CASCADE, .RESTRICT]
    aside .AS ident
    return parts

end QueryGateway.Sql.Grammar
