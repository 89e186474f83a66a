import QueryGateway.Sql.Name

/-! What the grammar reads out of a statement.

Of an expression the gateway needs to know two things only: which queries it embeds, in
which order, and whether it is a mere name. So an expression keeps its parts and forgets
its operators. Queries, tables and the statements that change data are kept in full; of all
other statements the parts are kept, for they may stand inside a procedure.

What is named `aside` holds expressions that the grammar reads but that have no place in a
statement's tree. -/
namespace QueryGateway.Sql

namespace Ast

mutual

/-- An expression. A `path` is a chain of accesses that is no mere name, a `form` any
other expression with parts, and `aside` what a table holds that a statement of a routine
names. -/
inductive Expr where
  | name (n : Name)
  | literal
  | call (parts : List Expr)
  | path (parts : List Expr)
  | query (q : Query)
  | form (parts : List Expr)
  | aside (parts : List Expr)

/-- A query: its `WITH` list, its body, and the expressions of the clauses that follow
the body (`ORDER BY`, `LIMIT`, `OFFSET`, `FETCH`, in this order). -/
structure Query where
  ctes : List Cte
  recursive : Bool
  body : Body
  trailing : List Expr

/-- One entry of a `WITH` list; the types of its columns are `aside`. -/
structure Cte where
  name : String
  query : Query
  aside : List Expr

/-- The body of a query. A `command` is a statement that writes somewhere else than into a
table, with the query that gives its rows. -/
inductive Body where
  | select (s : Select)
  | nested (q : Query)
  | setOperation (op : String) (left right : Body)
  | values (rows : List Expr)
  | table (name : String)
  | insert (i : Insert)
  | update (u : Update)
  | delete
  | merge
  | command (keyword : String) (source : Query)

/-- A select: what stands before `FROM`, and after it, in expressions. -/
structure Select where
  projection : List Expr
  into : Option Name
  source : List Joined
  conditions : List Expr

/-- A table with the joins that follow it. -/
structure Joined where
  first : Factor
  joins : List Join

/-- One join: the table it adds, and its condition. -/
structure Join where
  table : Factor
  condition : List Expr

/-- One item of a `FROM` list. A table in brackets may list the `columns` of its alias with
their types, and a table that is `turned` has another one inside. -/
inductive Factor where
  | table (name : Name) (aside : List Expr)
  | function (name : Name) (arguments : List Expr) (aside : List Expr)
  | derived (q : Query) (label : Option String) (aside : List Expr)
  | joined (j : Joined) (columns : List Expr)
  | turned (inside : Factor) (parts : List Expr)
  | other (parts : List Expr)

/-- An insertion; `conflict` holds the assignments and the condition of `ON CONFLICT`. -/
structure Insert where
  table : Name
  source : Option Query
  conflict : List Expr
  returning : List Expr
  aside : List Expr

/-- An update. -/
structure Update where
  target : Joined
  source : List Joined
  assignments : List Expr
  condition : List Expr
  returning : List Expr
  aside : List Expr

end

/-- A deletion; `listed` are the names before `FROM`, `others` the tables
of `USING`. -/
structure Delete where
  listed : List Name
  target : List Joined
  others : List Joined
  condition : List Expr
  returning : List Expr
  aside : List Expr

/-- A data type that the grammar knows by its own word, an interval, or a type known by its
name alone. -/
inductive TypeForm where
  | builtin | interval | custom
  deriving DecidableEq, Repr

/-- A data type. The mark `>>` closes two types at once: the type inside has taken it when
`closesTwice` is set. A type that lists columns has expressions as its parts. -/
structure TypeName where
  form : TypeForm
  closesTwice : Bool
  parts : List Expr

/-- The statement that creates a table or a view, as far as its printed form tells what
it creates: the words before the object word, whether `IF NOT EXISTS` stands there, the
name, and what comes right after it: a word, or a parenthesis. -/
structure Heading where
  modifiers : List String
  object : String
  guarded : Bool
  name : Name
  next : String

/-- One statement. The kinds that the gateway never runs keep their keyword and their
parts. -/
inductive Statement where
  | query (q : Query)
  | insert (i : Insert)
  | update (u : Update)
  | delete (d : Delete)
  | createView (h : Heading) (parts : List Expr)
  | createTable (h : Heading) (parts : List Expr)
  | createOther (object : String) (parts : List Expr)
  | drop (object : String) (parts : List Expr)
  | alter (object : String) (parts : List Expr)
  | other (keyword : String) (parts : List Expr)

mutual

/-- What a table and its joins hold in a statement of a routine. -/
def Joined.parts : Joined → List Expr
  | ⟨first, joins⟩ => first.parts ++ joinParts joins

/-- What joins hold, each its table before its condition. -/
def joinParts : List Join → List Expr
  | [] => []
  | ⟨table, condition⟩ :: rest => table.parts ++ condition ++ joinParts rest

/-- What one item of a `FROM` list holds: the conditions of the joins in it, and aside what
is inside its tables. -/
def Factor.parts : Factor → List Expr
  | .table _ aside => [.aside aside]
  | .function _ arguments aside => [.aside (arguments ++ aside)]
  | .derived q _ aside => [.aside (.query q :: aside)]
  | .joined j columns => j.parts ++ columns
  | .turned inside parts => [.aside (inside.parts ++ parts)]
  | .other parts => [.aside parts]

end

/-- The expressions of a statement, in the order of its clauses. -/
def Statement.parts : Statement → List Expr
  | .query q => [.query q]
  | .insert i => (i.source.map .query).toList ++ i.aside ++ i.conflict ++ i.returning
  | .update u =>
    u.target.parts ++ u.assignments ++ u.source.flatMap Joined.parts ++ u.condition
      ++ u.returning ++ u.aside
  | .delete d =>
    d.target.flatMap Joined.parts ++ d.others.flatMap Joined.parts ++ d.condition
      ++ d.returning ++ d.aside
  | .createView _ parts | .createTable _ parts | .createOther _ parts => parts
  | .drop _ parts | .alter _ parts | .other _ parts => parts

/-- Statements that `EXPLAIN` does not take. -/
def Statement.isExplain : Statement → Bool
  | .other keyword _ => ["EXPLAIN", "DESCRIBE", "DESC"].contains keyword
  | _ => false

end Ast

end QueryGateway.Sql
