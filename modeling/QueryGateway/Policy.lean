import QueryGateway.Relation.Extraction

/-! What no caller may do, whatever their rights.

The policy names schemas and tables that are out of reach; a statement that mentions one
is rejected. Apart from it, text with a semicolon or a line comment is rejected before it
is parsed, and so is every statement that neither reads, nor changes data, nor creates a
view or a table. -/
namespace QueryGateway

/-- Why a statement never reaches authorization. -/
inductive Rejection where
  | semicolon
  | comment
  | unreadable (reason : String)
  | forbidden (relation : String) (code : UInt16)
  | drop
  | alter
  | create (object : String)
  | unrecognized (keyword : String)
  deriving DecidableEq, Repr

/-- What kind of rule a rejection enforces. -/
inductive RejectionKind where
  | validation
  | policy
  | classification
  deriving DecidableEq, Repr

namespace Rejection

/-- The text that the caller reads. -/
def message : Rejection → String
  | .semicolon => "You can't use ';'. Use the bulk transaction API instead"
  | .comment => "SQL comments '--' are not allowed"
  | .unreadable reason => reason
  | .forbidden _ _ => "Can't complete the query"
  | .drop => "DROP is not allowed through the API"
  | .alter => "ALTER is not allowed through the API"
  | .create _ => "Only CREATE VIEW is allowed through the API"
  | .unrecognized _ =>
    "Check your SQL. Could not recognise it as either SELECT, INSERT, UPDATE or DELETE"

/-- The status code that the caller gets. -/
def code : Rejection → UInt16
  | .forbidden _ code => code
  | .unrecognized _ => 400
  | _ => 403

def kind : Rejection → RejectionKind
  | .semicolon | .comment | .unreadable _ => .validation
  | .unrecognized _ => .classification
  | _ => .policy

end Rejection

/-! ### Text -/

/-- Whether the characters of a line comment's start occur. -/
def hasDoubleDash : List Char → Bool
  | '-' :: '-' :: _ => true
  | _ :: rest => hasDoubleDash rest
  | [] => false

/-- Rejects text that could hold a second statement or hide the end of one. -/
def precheck (text : String) : Except Rejection Unit :=
  if text.toList.contains ';' then .error .semicolon
  else if hasDoubleDash text.toList then .error .comment
  else .ok ()

/-! ### Forbidden relations -/

/-- The schemas and tables that are out of reach. -/
structure Policy where
  schemas : List String := ["settings", "information_schema", "sqlapi", "pg_catalog"]
  tables : List String := ["geometry_columns"]
  deriving DecidableEq, Repr

/-- Characters up to the first dot and what follows it, if there is one. -/
def splitDot : List Char → List Char × Option (List Char)
  | [] => ([], none)
  | '.' :: rest => ([], some rest)
  | c :: rest => ((c :: (splitDot rest).1), (splitDot rest).2)

/-- The segment of a name after its last dot, and the one before that. -/
def lastSegments (name : List Char) : List Char × Option (List Char) :=
  let (table, before) := splitDot name.reverse
  (table.reverse, before.map fun rest => (splitDot rest).1.reverse)

namespace Policy

/-- Whether a relation's table or its schema is out of reach; case plays no part. -/
def forbids (p : Policy) (relation : String) : Bool :=
  let (table, schema) := lastSegments relation.toLower.toList
  (p.tables.map fun t => t.toLower.toList).contains table
    || (schema.map fun s => (p.schemas.map fun s => s.toLower.toList).contains s).getD false

/-- The status code for a forbidden relation: 406 for a target, 403 otherwise. -/
def codeFor : Role → UInt16
  | .read => 403
  | .write => 406

/-- Rejects a forbidden relation. -/
def check (p : Policy) (relation : String) (role : Role) : Except Rejection Unit :=
  if p.forbids relation then .error (.forbidden relation (codeFor role)) else .ok ()

/-- The relations of a statement, unless it mentions a forbidden one; the first of these
is reported. -/
def extract (p : Policy) (s : Tree.Statement) : Except Rejection RelationSet :=
  match s.references.find? (p.forbids ·.name) with
  | some r => .error (.forbidden r.name (codeFor r.role))
  | none => .ok (.ofList s.references)

end Policy

/-! ### Operations -/

/-- What an accepted statement does. -/
inductive Operation where
  | read
  | write
  | createWithKey
  deriving DecidableEq, Repr

namespace Operation

/-- Whether relations must be authorized for writing. -/
def requiresWrite (o : Operation) : Bool := o == .write

/-- Whether the database changes. -/
def isMutation (o : Operation) : Bool := o != .read

end Operation

/-- The operation of a statement. A query that creates a table does so whatever else it
does; next comes a query that changes data. -/
def Tree.Statement.classify : Tree.Statement → Except Rejection Operation
  | .drop _ => .error .drop
  | .alter _ => .error .alter
  | .create ⟨.view, _, _⟩ | .create ⟨.table, _, _⟩ => .ok .createWithKey
  | .create ⟨.other object, _, _⟩ => .error (.create object)
  | .insert _ | .update _ | .delete _ => .ok .write
  | .query q =>
    if q.createdTable.isSome then .ok .createWithKey
    else if q.modifies then .ok .write
    else .ok .read
  | .other keyword => .error (.unrecognized keyword)

end QueryGateway
