/-! The statement tree: what the gateway decides on.

A statement is reduced to the relations it names, without their quotes, and the queries
it embeds, each at the place of the query or table that holds it. Everything else of a
statement plays no part in who may run it. -/
namespace QueryGateway.Tree

/-- What a `CREATE` makes; the gateway knows views and tables apart from all else. -/
inductive CreatedKind where
  | view
  | table
  | other (object : String)
  deriving DecidableEq, Repr

mutual

/-- One statement. -/
inductive Statement where
  | query (q : Query)
  | insert (i : Insert)
  | update (u : Update)
  | delete (d : Delete)
  | create (c : Creation)
  | drop (object : String)
  | alter (object : String)
  | other (keyword : String)

/-- A query; `trailing` are the queries in the clauses after its body. -/
structure Query where
  ctes : List Cte
  recursive : Bool
  body : Body
  trailing : List Query

/-- A named query that others may refer to. -/
structure Cte where
  name : String
  query : Query

/-- The body of a query. `modify` is a statement that changes data and stands for a
query. -/
inductive Body where
  | select (s : Select)
  | setOperation (op : String) (left right : Body)
  | nested (q : Query)
  | values (embedded : List Query)
  | table (name : String)
  | modify (s : Statement)

/-- A select: the items of its `FROM` with joins flattened, the queries in its other
clauses, and the table it creates, if any. -/
structure Select where
  source : List Item
  embedded : List Query
  into : Option String

/-- One item that rows come from. -/
inductive Item where
  | table (name : String)
  | subquery (q : Query) (label : Option String)
  | function (name : String) (embedded : List Query)
  | other (embedded : List Query)

/-- An insertion, the queries of its conflict and returning clauses apart. -/
structure Insert where
  table : String
  source : Option Query
  embedded : List Query

/-- An update. -/
structure Update where
  target : List Item
  source : List Item
  embedded : List Query

/-- A deletion. -/
structure Delete where
  targets : List Item
  source : List Item
  embedded : List Query

/-- The creation of an object from queries. -/
structure Creation where
  kind : CreatedKind
  name : Option String
  queries : List Query

end

/-! ### What a statement is -/

mutual

/-- Whether a query's result depends on a change: one of its named queries or its body is
a statement that changes data. -/
def Query.modifies : Query → Bool
  | ⟨ctes, _, body, _⟩ => anyCteModifies ctes || body.modifies

/-- Whether one of several named queries changes data. -/
def anyCteModifies : List Cte → Bool
  | [] => false
  | ⟨_, q⟩ :: rest => q.modifies || anyCteModifies rest

/-- Whether a body changes data. -/
def Body.modifies : Body → Bool
  | .modify _ => true
  | .setOperation _ left right => left.modifies || right.modifies
  | .nested q => q.modifies
  | .select _ | .values _ | .table _ => false

end

mutual

/-- The table that a query's body creates. -/
def Query.createdTable : Query → Option String
  | ⟨_, _, body, _⟩ => body.createdTable

/-- The table that a body creates, the left side of a set operation first. -/
def Body.createdTable : Body → Option String
  | .select s => s.into
  | .setOperation _ left right => left.createdTable.or right.createdTable
  | .nested q => q.createdTable
  | .values _ | .table _ | .modify _ => none

end

namespace Statement

/-- Whether a statement changes data, itself or as a query that depends on a change. -/
def modifies : Statement → Bool
  | .insert _ | .update _ | .delete _ => true
  | .query q => q.modifies
  | .create _ | .drop _ | .alter _ | .other _ => false

/-- The table that a query statement creates. -/
def createdTable : Statement → Option String
  | .query q => q.createdTable
  | _ => none

/-- The word that a statement is known by. -/
def keyword : Statement → String
  | .query _ => "SELECT"
  | .insert _ => "INSERT"
  | .update _ => "UPDATE"
  | .delete _ => "DELETE"
  | .create _ => "CREATE"
  | .drop _ => "DROP"
  | .alter _ => "ALTER"
  | .other keyword => keyword

end Statement

/-! ### Sections -/

/-- The sections that a statement may have, in the order in which they are listed. -/
inductive Section where
  | select | union | source | insert | update | delete | create | view | table | drop | alter
  deriving DecidableEq, Repr

namespace Section

/-- All sections in their order. -/
def all : List Section :=
  [.select, .union, .source, .insert, .update, .delete, .create, .view, .table, .drop, .alter]

/-- The word for a section. -/
def name : Section → String
  | .select => "SELECT"
  | .union => "UNION"
  | .source => "FROM"
  | .insert => "INSERT"
  | .update => "UPDATE"
  | .delete => "DELETE"
  | .create => "CREATE"
  | .view => "VIEW"
  | .table => "TABLE"
  | .drop => "DROP"
  | .alter => "ALTER"

end Section

/-- A `FROM` section, if there is anything to read from. -/
def sourceSection (items : List Item) : List Section :=
  if items.isEmpty then [] else [.source]

/-- The sections that the making of an object brings. -/
def CreatedKind.sections : CreatedKind → List Section
  | .view => [.create, .view]
  | .table => [.create, .table]
  | .other _ => [.create]

mutual

/-- The sections met in a statement, as often as they are met. -/
def Statement.met : Statement → List Section
  | .query q => q.met
  | .insert ⟨_, source, embedded⟩ =>
    .insert :: (optionMet source ++ queriesMet embedded)
  | .update ⟨target, source, embedded⟩ =>
    .update :: (itemsMet target ++ sourceSection source ++ itemsMet source ++ queriesMet embedded)
  | .delete ⟨targets, source, embedded⟩ =>
    .delete :: .source :: (itemsMet targets ++ itemsMet source ++ queriesMet embedded)
  | .create ⟨kind, _, queries⟩ => kind.sections ++ queriesMet queries
  | .drop _ => [.drop]
  | .alter _ => [.alter]
  | .other _ => []

/-- The sections met in a query. -/
def Query.met : Query → List Section
  | ⟨ctes, _, body, trailing⟩ => ctesMet ctes ++ body.met ++ queriesMet trailing

/-- The sections met in named queries. -/
def ctesMet : List Cte → List Section
  | [] => []
  | ⟨_, q⟩ :: rest => q.met ++ ctesMet rest

/-- The sections met in a body. -/
def Body.met : Body → List Section
  | .select ⟨source, embedded, _⟩ =>
    .select :: (sourceSection source ++ itemsMet source ++ queriesMet embedded)
  | .setOperation _ left right => .union :: (left.met ++ right.met)
  | .nested q => q.met
  | .values embedded => queriesMet embedded
  | .table _ => [.select, .source]
  | .modify s => s.met

/-- The sections met in items. -/
def itemsMet : List Item → List Section
  | [] => []
  | item :: rest => item.met ++ itemsMet rest

/-- The sections met in an item. -/
def Item.met : Item → List Section
  | .table _ => []
  | .subquery q _ => q.met
  | .function _ embedded => queriesMet embedded
  | .other embedded => queriesMet embedded

/-- The sections met in queries. -/
def queriesMet : List Query → List Section
  | [] => []
  | q :: rest => q.met ++ queriesMet rest

/-- The sections met in a query that may be missing. -/
def optionMet : Option Query → List Section
  | none => []
  | some q => q.met

end

/-- The sections present anywhere in a statement, each once and in order. -/
def Statement.sections (s : Statement) : List Section :=
  let met := s.met
  Section.all.filter met.contains

end QueryGateway.Tree
