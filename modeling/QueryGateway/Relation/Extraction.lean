import QueryGateway.Relation.Basic
import QueryGateway.Tree

/-! The relations of a statement.

`Statement.references` lists every mention of a relation in the order of a walk through
the tree: a target before what is read into it, the queries of a clause after the tables
of the clause. A read of a name that a `WITH` list binds is no mention. In a recursive
list all names are bound throughout the query; otherwise each name is bound in what
follows it. A qualified name is never bound, nor is the target of a change. -/
namespace QueryGateway.Tree

/-- The names that `WITH` lists bind at some point, in lower case. -/
abbrev Scope := List String

/-- Whether a name refers to a bound one. -/
def Scope.binds (scope : Scope) (name : String) : Bool :=
  !name.contains '.' && List.contains scope name.toLower

/-- The names that a `WITH` list binds. -/
def boundNames (ctes : List Cte) : Scope := ctes.map (·.name.toLower)

/-- A mention of a relation to be read, unless the name is bound. -/
def readOf (scope : Scope) (place : Place) (name : String) : List Reference :=
  if scope.binds name then [] else [⟨name, .read, place⟩]

/-- A mention of a relation in a role. -/
def mention (scope : Scope) (role : Role) (place : Place) (name : String) : List Reference :=
  match role with
  | .read => readOf scope place name
  | .write => [⟨name, .write, place⟩]

mutual

/-- The mentions in a statement. -/
def Statement.mentions (scope : Scope) (place : Place) : Statement → List Reference
  | .query q => q.mentions scope place
  | .insert ⟨table, source, embedded⟩ =>
    ⟨table, .write, place⟩ :: (optionMentions scope source ++ queriesMentions scope embedded)
  | .update ⟨target, source, embedded⟩ =>
    itemsMentions scope .write place target ++ itemsMentions scope .read place source
      ++ queriesMentions scope embedded
  | .delete ⟨targets, source, embedded⟩ =>
    itemsMentions scope .write place targets ++ itemsMentions scope .read place source
      ++ queriesMentions scope embedded
  | .create ⟨_, name, queries⟩ =>
    name.toList.map (⟨·, .write, place⟩) ++ queriesMentions scope queries
  | .drop _ | .alter _ | .other _ => []

/-- The mentions in a query. -/
def Query.mentions (scope : Scope) (place : Place) : Query → List Reference
  | ⟨ctes, recursive, body, trailing⟩ =>
    let inner := boundNames ctes ++ scope
    (if recursive then ctesMentions inner ctes else ctesInOrder scope ctes)
      ++ body.mentions inner place ++ queriesMentions inner trailing

/-- The mentions in named queries that all see the same names. -/
def ctesMentions (scope : Scope) : List Cte → List Reference
  | [] => []
  | ⟨_, q⟩ :: rest => q.mentions scope .subquery ++ ctesMentions scope rest

/-- The mentions in named queries that each see the names before them. -/
def ctesInOrder (scope : Scope) : List Cte → List Reference
  | [] => []
  | ⟨name, q⟩ :: rest => q.mentions scope .subquery ++ ctesInOrder (name.toLower :: scope) rest

/-- The mentions in a body. -/
def Body.mentions (scope : Scope) (place : Place) : Body → List Reference
  | .select ⟨source, embedded, into⟩ =>
    into.toList.map (⟨·, .write, place⟩) ++ itemsMentions scope .read place source
      ++ queriesMentions scope embedded
  | .setOperation _ left right => left.mentions scope place ++ right.mentions scope place
  | .nested q => q.mentions scope place
  | .values embedded => queriesMentions scope embedded
  | .table name => readOf scope place name
  | .modify s => s.mentions scope .subquery

/-- The mentions in items whose tables have a role. -/
def itemsMentions (scope : Scope) (role : Role) (place : Place) : List Item → List Reference
  | [] => []
  | item :: rest => item.mentions scope role place ++ itemsMentions scope role place rest

/-- The mentions in an item. -/
def Item.mentions (scope : Scope) (role : Role) (place : Place) : Item → List Reference
  | .table name => mention scope role place name
  | .subquery q _ => q.mentions scope .subquery
  | .function _ embedded => queriesMentions scope embedded
  | .other embedded => queriesMentions scope embedded

/-- The mentions in embedded queries. -/
def queriesMentions (scope : Scope) : List Query → List Reference
  | [] => []
  | q :: rest => q.mentions scope .subquery ++ queriesMentions scope rest

/-- The mentions in a query that may be missing. -/
def optionMentions (scope : Scope) : Option Query → List Reference
  | none => []
  | some q => q.mentions scope .subquery

end

/-- Every mention of a relation in a statement, in order. -/
def Statement.references (s : Statement) : List Reference := s.mentions [] .own

end QueryGateway.Tree
