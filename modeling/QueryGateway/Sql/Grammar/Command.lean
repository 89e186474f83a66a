import QueryGateway.Sql.Grammar.Control
import QueryGateway.Sql.Grammar.Right
import QueryGateway.Sql.Grammar.Session
import QueryGateway.Sql.Grammar.Transfer

/-! The statements that neither read, change nor define anything the gateway serves. Of
these the first word of their printed form is kept, and their parts. Each is read after its
first word. -/
namespace QueryGateway.Sql.Grammar

open Phrase Ast

/-! ### Tables as a whole -/

/-- Rows removed all at once. -/
def truncation : Phrase (List Expr) := do
  skipAny [.TABLE]
  ifExists
  let _ ← list (do
    skipAny [.ONLY]
    let _ ← name
    hasMark .star)
  let parts ← after .PARTITION (parenList expression)
  if ← hasAll [.RESTART, .IDENTITY] then pure () else skipAll [.CONTINUE, .IDENTITY]
  dropBehavior
  let _ ← onCluster
  return parts

/-- Statistics taken of a table. -/
def analysis : Phrase (List Expr) := do
  skipAny [.TABLE]
  let _ ← name
  let parts ← series do
    match ← hasAny [.PARTITION, .FOR, .CACHE, .NOSCAN, .COMPUTE] with
    | some .PARTITION => return some (← parenList expression)
    | some .FOR =>
      expect .COLUMNS
      let _ ← attempt idents
      return some []
    | some .CACHE =>
      expect .METADATA
      return some []
    | some .COMPUTE =>
      expect .STATISTICS
      return some []
    | some _ => return some []
    | none => return none
  return parts.flatten

/-- Space taken back. -/
def vacuum : Phrase Unit := do
  skipAny [.FULL]
  skipAll [.SORT, .ONLY]
  skipAll [.DELETE, .ONLY]
  skipAny [.REINDEX]
  skipAny [.RECLUSTER]
  if (← attempt name).isSome then
    aside .TO (do let _ ← constant; expect .PERCENT)
    skipAny [.BOOST]

/-- A table kept at hand. -/
def caching : Phrase (List Expr) := do
  if ← has .TABLE then pure ()
  else
    let _ ← name
    expect .TABLE
  let _ ← name
  let given ← after .OPTIONS options
  if ← ahead List.isEmpty then return given
  else if ← ahead startsWord then
    skipAny [.AS]
    return given ++ [.query (← query)]
  else .miss

/-- The partitions of a table looked up anew. -/
def repair : Phrase Unit := do
  skipAny [.REPAIR]
  expect .TABLE
  let _ ← name
  let _ ← attempt (do skipAny [.ADD, .DROP, .SYNC]; expect .PARTITIONS)

/-! ### Plans and remarks -/

/-- An option of a plan, with its value if it has one. -/
def planOption : Phrase (List Expr) := do
  let _ ← ident
  if ← ahead (fun ls => marks .comma ls || closes .round ls) then return []
  else return [← expression]

/-- A plan of a statement, or the columns of a table. -/
def explanation (keyword : String) : Phrase Statement := do
  let bracketed ← ahead (opens .round)
  let given ←
    if bracketed && keyword == "EXPLAIN" then pure (← parenList planOption).flatten
    else if ← hasOneOf [[.QUERY, .PLAN], [.ESTIMATE]] then pure []
    else do
      skipAny [.ANALYZE]
      skipAny [.VERBOSE]
      aside .FORMAT (do
        let _ ← hasMark .equal
        anyOf [.TEXT, .GRAPHVIZ, .JSON, .TREE, .TRADITIONAL])
      pure []
  match ← attempt statement with
  | some s => if s.isExplain then .miss else return .other keyword (s.parts ++ given)
  | none =>
    skipAny [.EXTENDED, .FORMATTED]
    let _ ← name
    return .other keyword given

/-- A remark on an object. -/
def commenting : Phrase Unit := do
  ifExists
  expect .ON
  let known ← hasOneOf <| [Keyword.MATERIALIZED, .VIEW] ::
    [.COLUMN, .DATABASE, .DOMAIN, .EXTENSION, .FUNCTION, .INDEX, .PROCEDURE, .ROLE, .SCHEMA,
     .TABLE, .TYPE, .USER, .VIEW].map fun k => [k]
  if known then
    let _ ← name
    expect .IS
    if ← has .NULL then pure () else literalText
  else .miss

/-! ### Calls and values -/

/-- A procedure called. -/
def calling : Phrase (List Expr) := do
  let _ ← name
  if ← ahead (opens .round) then return [← callOfName] else return []

/-- The value of an internal setting. -/
def pragmaValue : Phrase Unit := do
  match ← constant with
  | .text | .number | .placeholder => pure ()
  | _ => .miss

/-- An internal setting. -/
def pragma : Phrase Unit := do
  let _ ← name
  if ← ahead (opens .round) then paren pragmaValue
  else if ← hasMark .equal then pragmaValue

/-- The beginning of a message's printed form, up to the first blank. -/
def printedStart (ls : List Lexeme) : List Char :=
  let first :=
    match next? ls with
    | some (.string .plain s) => '\'' :: escapeQuote '\'' '\x00' s.toList ++ ['\'']
    | some (.word w) => if w.quoted then (Ident.render ⟨w.text, some '"'⟩) else w.text.toList
    | some (.number digits _) => digits.toList
    | some (.placeholder text) => '$' :: text.toList
    | _ => []
  let shown := first ++ if ls.length = 1 then [','] else []
  shown.takeWhile fun c => !Text.isBlank c

/-- An error raised with a message, its severity and a state; the first word of the printed
form runs into the message. -/
def numberedError : Phrase Statement := do
  let (parts, words) ← paren do
    let (message, words) ← taken expression
    mark .comma
    let severity ← expression
    mark .comma
    let state ← expression
    let more ← if ← hasMark .comma then expressions else pure []
    pure (message :: severity :: state :: more, words)
  aside .WITH (list (anyOf [.LOG, .NOWAIT, .SETERROR]))
  return .other (String.ofList ("RAISERROR(".toList ++ (printedStart words).map Char.toUpper))
    parts

/-! ### All commands -/

/-- What a command without parts has after its first word. -/
def plainCommand (k : Keyword) : Option (Phrase Unit) :=
  match k with
  | .BEGIN => some beginning
  | .START => some (do expect .TRANSACTION; transactionModes)
  | .COMMIT | .END => some transactionEnd
  | .ROLLBACK => some rollback
  | .SAVEPOINT | .LOAD | .OPEN | .LISTEN => some (unkept ident)
  | .RELEASE => some (do skipAny [.SAVEPOINT]; unkept ident)
  | .DEALLOCATE => some (do skipAny [.PREPARE]; unkept ident)
  | .RESET => some (do if ← has .ALL then pure () else unkept name)
  | .CLOSE => some (do if ← has .ALL then pure () else unkept ident)
  | .UNLISTEN => some (do if ← hasMark .star then pure () else unkept ident)
  | .NOTIFY => some (do
      let _ ← ident
      if ← hasMark .comma then literalText)
  | .USE => some (unkept name)
  | .DISCARD => some (unkept (anyOf [.ALL, .PLANS, .SEQUENCES, .TEMP, .TEMPORARY]))
  | .FETCH => some fetchCommand
  | .VACUUM => some vacuum
  | .COMMENT => some commenting
  | .PRAGMA => some pragma
  | .KILL => some (do skipAny [.CONNECTION, .QUERY]; size)
  | .RENAME => some (do
      expect .TABLE
      unkept (list (do let _ ← name; expect .TO; name)))
  | .UNCACHE => some (do
      expect .TABLE
      ifExists
      unkept name)
  | .MSCK => some repair
  | _ => none

/-- What a command with parts has after its first word. -/
def partedCommand (k : Keyword) : Option (Phrase (List Expr)) :=
  match k with
  | .SET => some setting
  | .SHOW => some shown
  | .GRANT => some grant
  | .REVOKE => some revoke
  | .DENY => some deny
  | .COPY => some copy
  | .EXPORT => some dataExport
  | .ANALYZE => some analysis
  | .TRUNCATE => some truncation
  | .CACHE => some caching
  | .DECLARE => some declaration
  | .PREPARE => some preparation
  | .EXECUTE | .EXEC => some execution
  | .CALL => some calling
  | .MERGE => some merging
  | .ASSERT => some (do
      let condition ← expression
      return condition :: (← after .AS (do return [← expression])))
  | .ATTACH => some (do
      skipAny [.DATABASE]
      let place ← expression
      expect .AS
      let _ ← ident
      return [place])
  | .PRINT => some (do return [← expression])
  | .RETURN => some (do return (← attempt expression).toList)
  | .RAISE => some raised
  | .IF => some conditional
  | .CASE => some caseBlock
  | .WHILE => some whileLoop
  | _ => none

/-- The rest of the command that a word starts. -/
def command (w : Word) : Option (Phrase Statement) :=
  let printed := String.ofList (keywordCase w.text.toList)
  w.keyword.bind fun k =>
    match k with
    | .EXPLAIN | .DESCRIBE | .DESC => some (explanation printed)
    | .UNLOAD => some unload
    | .RAISERROR => some numberedError
    | .EXEC => some (do return .other "EXECUTE" (← execution))
    | _ =>
      match plainCommand k, partedCommand k with
      | some p, _ => some (do p; return .other printed [])
      | none, some p => some (do return .other printed (← p))
      | none, none => none

end QueryGateway.Sql.Grammar
