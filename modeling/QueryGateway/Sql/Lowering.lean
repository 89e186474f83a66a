import QueryGateway.Policy
import QueryGateway.Sql.Grammar
import QueryGateway.Text.Blank

/-! From what the grammar reads to the statement tree.

An expression gives the queries it embeds, outermost only: what lies deeper is reached
through them. Joins are flattened, a nested join too. A deletion or a merge that stands
for a query has no place in the tree and fails. -/
namespace QueryGateway.Sql

/-- Why a text has no statement tree. -/
inductive ParseFailure where
  | empty
  | several (count : Nat)
  | notSql
  | unsupportedBody (keyword : String)
  deriving DecidableEq, Repr

/-- The text that the caller reads. -/
def ParseFailure.message : ParseFailure → String
  | .empty => "Empty query"
  | .several count => "Expected a single statement, found " ++ toString count
  | .notSql => "sql parser error"
  | .unsupportedBody keyword => "Unsupported query body '" ++ keyword ++ "'"

/-! ### Names of created objects -/

/-- Words that may stand between `CREATE` and the name of what it creates. -/
def objectModifiers : List String :=
  ["OR", "REPLACE", "UNIQUE", "TEMP", "TEMPORARY", "GLOBAL", "LOCAL", "UNLOGGED", "IF", "NOT",
   "EXISTS"]

/-- The word read so far, if there is one, last character first. -/
def finishWord (current : List Char) : List (List Char) :=
  if current.isEmpty then [] else [current.reverse]

/-- The words before the first parenthesis, blanks and parentheses between double quotes
being letters. -/
def identifierWords (quoted : Bool) (current : List Char) : List Char → List (List Char)
  | [] => finishWord current
  | c :: rest =>
    if c = '"' then identifierWords (!quoted) (c :: current) rest
    else if c = '(' && !quoted then finishWord current
    else if Text.isBlank c && !quoted then finishWord current ++ identifierWords quoted [] rest
    else identifierWords quoted (c :: current) rest

/-- Whether two words differ in the case of ASCII letters at most. -/
def sameWord (word : List Char) (text : String) : Bool :=
  word.map Char.toUpper == text.toList.map Char.toUpper

/-- The relation that the statement creates: the first word after the object word that is
no modifier. -/
def createdName (rendered : List Char) (object : String) : Option String :=
  match (identifierWords false [] rendered).dropWhile (!sameWord · object) with
  | [] => none
  | _ :: rest =>
    (rest.find? fun w => !objectModifiers.any (sameWord w)).map
      fun w => String.ofList (stripQuotes w)

/-- The beginning of a statement that creates something, as it prints. -/
def Ast.Heading.render (h : Ast.Heading) : List Char :=
  let before := ["CREATE"] ++ h.modifiers ++ [h.object]
    ++ (if h.guarded then ["IF", "NOT", "EXISTS"] else [])
  (before.flatMap fun w => w.toList ++ [' ']) ++ Name.render h.name ++ ' ' :: h.next.toList

/-- The relation that a statement with this heading creates. -/
def Ast.Heading.created (h : Ast.Heading) : Option String := createdName h.render h.object

/-! ### Statements -/

/-- Where lowering may fail. -/
abbrev Lowered := Except ParseFailure

mutual

/-- The outermost queries of an expression. -/
def lowerExpr : Ast.Expr → Lowered (List Tree.Query)
  | .name _ | .literal | .aside _ => .ok []
  | .call parts | .path parts | .form parts => lowerExprs parts
  | .query q => do return [← lowerQuery q]

/-- The outermost queries of expressions, one after the other. -/
def lowerExprs : List Ast.Expr → Lowered (List Tree.Query)
  | [] => .ok []
  | e :: rest => do return (← lowerExpr e) ++ (← lowerExprs rest)

/-- A query with its named queries, its body and the queries after it. -/
def lowerQuery : Ast.Query → Lowered Tree.Query
  | ⟨ctes, recursive, body, trailing⟩ => do
    return ⟨← lowerCtes ctes, recursive, ← lowerBody body, ← lowerExprs trailing⟩

/-- The entries of a `WITH` list. -/
def lowerCtes : List Ast.Cte → Lowered (List Tree.Cte)
  | [] => .ok []
  | ⟨name, q, _⟩ :: rest => do return ⟨name, ← lowerQuery q⟩ :: (← lowerCtes rest)

/-- A body. -/
def lowerBody : Ast.Body → Lowered Tree.Body
  | .select ⟨projection, into, source, conditions⟩ => do
    let before ← lowerExprs projection
    let (items, among) ← lowerTables source
    let after ← lowerExprs conditions
    return .select ⟨items, before ++ among ++ after, into.map Name.relation⟩
  | .nested q => do return .nested (← lowerQuery q)
  | .setOperation op left right => do
    return .setOperation op (← lowerBody left) (← lowerBody right)
  | .values rows => do return .values (← lowerExprs rows)
  | .table name => .ok (.table (relationName name))
  | .insert i => do return .modify (.insert (← lowerInsert i))
  | .update u => do return .modify (.update (← lowerUpdate u))
  | .command keyword _ => .ok (.modify (.other keyword))
  | .delete => .error (.unsupportedBody "DELETE")
  | .merge => .error (.unsupportedBody "MERGE")

/-- The items of joined tables, and the outermost queries of their conditions. -/
def lowerTables : List Ast.Joined → Lowered (List Tree.Item × List Tree.Query)
  | [] => .ok ([], [])
  | j :: rest => do
    let (items, among) ← lowerJoined j
    let (items', among') ← lowerTables rest
    return (items ++ items', among ++ among')

/-- The items of a table and its joins. -/
def lowerJoined : Ast.Joined → Lowered (List Tree.Item × List Tree.Query)
  | ⟨first, joins⟩ => do
    let (items, among) ← lowerFactor first
    let (items', among') ← lowerJoins joins
    return (items ++ items', among ++ among')

/-- The items of joins, each with its condition behind it. -/
def lowerJoins : List Ast.Join → Lowered (List Tree.Item × List Tree.Query)
  | [] => .ok ([], [])
  | ⟨table, condition⟩ :: rest => do
    let (items, among) ← lowerFactor table
    let matched ← lowerExprs condition
    let (items', among') ← lowerJoins rest
    return (items ++ items', among ++ matched ++ among')

/-- An item; a nested join gives all of its own, and of a table that is turned only what
turns it is looked at. -/
def lowerFactor : Ast.Factor → Lowered (List Tree.Item × List Tree.Query)
  | .table name _ => .ok ([.table (Name.relation name)], [])
  | .function name arguments _ => do
    return ([.function (Name.relation name) (← lowerExprs arguments)], [])
  | .derived q label _ => do return ([.subquery (← lowerQuery q) label], [])
  | .joined j columns => do
    let (items, among) ← lowerJoined j
    return (items, among ++ (← lowerExprs columns))
  | .turned _ parts | .other parts => do return ([.other (← lowerExprs parts)], [])

/-- An insertion. -/
def lowerInsert : Ast.Insert → Lowered Tree.Insert
  | ⟨table, source, conflict, returning, _⟩ => do
    let q ← lowerOption source
    return ⟨Name.relation table, q, (← lowerExprs conflict) ++ (← lowerExprs returning)⟩

/-- A query that may be missing. -/
def lowerOption : Option Ast.Query → Lowered (Option Tree.Query)
  | none => .ok none
  | some q => do return some (← lowerQuery q)

/-- An update. The queries in the joins of its target are looked at and left out. -/
def lowerUpdate : Ast.Update → Lowered Tree.Update
  | ⟨target, source, assignments, condition, returning, _⟩ => do
    let (targets, _) ← lowerJoined target
    let (items, among) ← lowerTables source
    let changed ← lowerExprs assignments
    let matched ← lowerExprs condition
    let given ← lowerExprs returning
    return ⟨targets, items, among ++ changed ++ matched ++ given⟩

end

/-- A deletion. The names before `FROM` are targets behind the tables after it. -/
def lowerDelete (d : Ast.Delete) : Lowered Tree.Delete := do
  let (targets, amongTargets) ← lowerTables d.target
  let (items, among) ← lowerTables d.others
  let matched ← lowerExprs d.condition
  let given ← lowerExprs d.returning
  return ⟨targets ++ d.listed.map fun n => .table (Name.relation n), items,
    amongTargets ++ among ++ matched ++ given⟩

/-- A statement. -/
def lowerStatement : Ast.Statement → Lowered Tree.Statement
  | .query q => do return .query (← lowerQuery q)
  | .insert i => do return .insert (← lowerInsert i)
  | .update u => do return .update (← lowerUpdate u)
  | .delete d => do return .delete (← lowerDelete d)
  | .createView h parts => do return .create ⟨.view, h.created, ← lowerExprs parts⟩
  | .createTable h parts => do return .create ⟨.table, h.created, ← lowerExprs parts⟩
  | .createOther object parts => do return .create ⟨.other object, none, ← lowerExprs parts⟩
  | .drop object _ => .ok (.drop object)
  | .alter object _ => .ok (.alter object)
  | .other keyword _ => .ok (.other keyword)

/-- The statement tree of a text that holds exactly one statement. -/
def parse (text : String) : Except ParseFailure Tree.Statement :=
  if Text.isBlankText text then .error .empty
  else
    match read text.toList with
    | none => .error .notSql
    | some [] => .error .empty
    | some [s] => lowerStatement s
    | some statements => .error (.several statements.length)

end QueryGateway.Sql
