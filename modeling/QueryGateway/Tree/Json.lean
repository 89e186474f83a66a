import QueryGateway.Json.Basic
import QueryGateway.Tree

/-! The JSON form of a statement tree. -/
namespace QueryGateway.Tree

/-- The JSON form of what a `CREATE` makes. -/
def CreatedKind.toJson : CreatedKind → Json
  | .view => .string "view"
  | .table => .string "table"
  | .other object => .ofMembers [("other", .string object)]

mutual

/-- The members of a statement's JSON form. -/
def Statement.members : Statement → List (String × Json)
  | .query q => [("kind", .string "query"), ("statement", .ofMembers q.members)]
  | .insert ⟨table, source, embedded⟩ =>
    [("kind", .string "insert"),
     ("statement", .ofMembers
       [("table", .string table), ("source", optionToJson source),
        ("subqueries", .array (queriesToJson embedded))])]
  | .update ⟨target, source, embedded⟩ =>
    [("kind", .string "update"),
     ("statement", .ofMembers
       [("target", .array (itemsToJson target)), ("from", .array (itemsToJson source)),
        ("subqueries", .array (queriesToJson embedded))])]
  | .delete ⟨targets, source, embedded⟩ =>
    [("kind", .string "delete"),
     ("statement", .ofMembers
       [("targets", .array (itemsToJson targets)), ("using", .array (itemsToJson source)),
        ("subqueries", .array (queriesToJson embedded))])]
  | .create ⟨kind, name, queries⟩ =>
    [("kind", .string "create"),
     ("statement", .ofMembers
       [("kind", kind.toJson), ("name", .ofOption .string name),
        ("queries", .array (queriesToJson queries))])]
  | .drop object => [("kind", .string "drop"), ("statement", .string object)]
  | .alter object => [("kind", .string "alter"), ("statement", .string object)]
  | .other keyword => [("kind", .string "other"), ("statement", .string keyword)]

/-- The members of a query's JSON form. -/
def Query.members : Query → List (String × Json)
  | ⟨ctes, recursive, body, trailing⟩ =>
    [("ctes", .array (ctesToJson ctes)), ("recursive", .bool recursive),
     ("body", .ofMembers body.members), ("subqueries", .array (queriesToJson trailing))]

/-- Named queries. -/
def ctesToJson : List Cte → List Json
  | [] => []
  | ⟨name, q⟩ :: rest =>
    .ofMembers [("name", .string name), ("query", .ofMembers q.members)] :: ctesToJson rest

/-- The members of a body's JSON form. A nested query and a change have theirs in the
body itself. -/
def Body.members : Body → List (String × Json)
  | .select ⟨source, embedded, into⟩ =>
    [("type", .string "select"), ("from", .array (itemsToJson source)),
     ("subqueries", .array (queriesToJson embedded)), ("into", .ofOption .string into)]
  | .setOperation op left right =>
    [("type", .string "set_operation"), ("op", .string op), ("left", .ofMembers left.members),
     ("right", .ofMembers right.members)]
  | .nested q => ("type", .string "nested") :: q.members
  | .values embedded =>
    [("type", .string "values"), ("subqueries", .array (queriesToJson embedded))]
  | .table name => [("type", .string "table"), ("name", .string name)]
  | .modify s => ("type", .string "modify") :: s.members

/-- Items that rows come from. -/
def itemsToJson : List Item → List Json
  | [] => []
  | item :: rest => .ofMembers item.members :: itemsToJson rest

/-- The members of an item's JSON form. -/
def Item.members : Item → List (String × Json)
  | .table name => [("type", .string "table"), ("name", .string name)]
  | .subquery q label =>
    [("type", .string "subquery"), ("query", .ofMembers q.members),
     ("alias", .ofOption .string label)]
  | .function name embedded =>
    [("type", .string "function"), ("name", .string name),
     ("subqueries", .array (queriesToJson embedded))]
  | .other embedded =>
    [("type", .string "other"), ("subqueries", .array (queriesToJson embedded))]

/-- Queries. -/
def queriesToJson : List Query → List Json
  | [] => []
  | q :: rest => .ofMembers q.members :: queriesToJson rest

/-- A query that may be missing. -/
def optionToJson : Option Query → Json
  | none => .null
  | some q => .ofMembers q.members

end

/-- The JSON form of a statement. -/
def Statement.toJson (s : Statement) : Json := .ofMembers s.members

end QueryGateway.Tree
