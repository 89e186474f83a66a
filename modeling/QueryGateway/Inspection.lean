import QueryGateway.Sql.Lowering
import QueryGateway.Tree.Json

/-! What the gateway finds out about a statement before it asks anyone.

The checks come in this order: the text, its parse, the relations it mentions, its
operation. The first that fails decides, so a forbidden relation is reported before a
statement of a kind that is never run. -/
namespace QueryGateway

/-- A statement that passed all checks. -/
structure Inspection where
  tree : Tree.Statement
  operation : Operation
  relations : RelationSet

/-- Inspects the text of a statement under a policy. -/
def inspect (policy : Policy) (text : String) : Except Rejection Inspection := do
  precheck text
  let tree ← (Sql.parse text).mapError fun e => .unreadable e.message
  let relations ← policy.extract tree
  let operation ← tree.classify
  return ⟨tree, operation, relations⟩

/-! ### The report on a statement -/

/-- The word for a role. -/
def Role.name : Role → String
  | .read => "read"
  | .write => "write"

/-- The role that a word stands for. -/
def Role.ofName? : String → Option Role
  | "read" => some .read
  | "write" => some .write
  | _ => none

/-- The word for a place. -/
def Place.name : Place → String
  | .own => "table"
  | .subquery => "subquery"

/-- The place that a word stands for. -/
def Place.ofName? : String → Option Place
  | "table" => some .own
  | "subquery" => some .subquery
  | _ => none

/-- The word for an operation. -/
def Operation.name : Operation → String
  | .read => "read"
  | .write => "write"
  | .createWithKey => "create_with_key"

def Reference.toJson (r : Reference) : Json :=
  .ofMembers [("name", .string r.name), ("role", .string r.role.name),
    ("expr_type", .string r.place.name)]

def RelationSet.toJson (set : RelationSet) : Json := .array (set.references.map Reference.toJson)

/-- What an inspection found, or why it failed. -/
def report : Except Rejection Inspection → Json
  | .ok found => .ofMembers
    [("success", .bool true), ("operation", .string found.operation.name),
     ("sections", .array (found.tree.sections.map fun s => .string s.name)),
     ("relations", found.relations.toJson), ("tree", found.tree.toJson)]
  | .error rejection => .ofMembers
    [("success", .bool false), ("code", .ofNat rejection.code.toNat),
     ("message", .string rejection.message)]

end QueryGateway
