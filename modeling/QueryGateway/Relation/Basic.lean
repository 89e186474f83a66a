/-! Relations that a statement refers to.

A `RelationSet` lists relations in the order in which they were first met, each once. A
relation that is written anywhere counts as written. -/
namespace QueryGateway

/-- What a statement does with a relation. -/
inductive Role where
  | read
  | write
  deriving DecidableEq, Repr

/-- Where a relation is named: in the statement's own clauses, or in a query within it. -/
inductive Place where
  | own
  | subquery
  deriving DecidableEq, Repr

/-- A relation as a statement refers to it. -/
structure Reference where
  name : String
  role : Role
  place : Place
  deriving DecidableEq, Repr

/-- References in the order of first mention, one for each name. -/
structure RelationSet where
  references : List Reference := []
  deriving DecidableEq, Repr

namespace RelationSet

/-- No relations. -/
def empty : RelationSet := ⟨[]⟩

/-- Adds a reference behind those already there. A name that is there keeps its position
and place, and becomes written if the new reference writes it. -/
def add (r : Reference) : List Reference → List Reference
  | [] => [r]
  | s :: rest =>
    if s.name = r.name then
      (if r.role = .write then { s with role := .write } else s) :: rest
    else s :: add r rest

def insert (set : RelationSet) (r : Reference) : RelationSet := ⟨add r set.references⟩

/-- The relations of a list of references. -/
def ofList (rs : List Reference) : RelationSet := rs.foldl insert empty

def names (set : RelationSet) : List String := set.references.map Reference.name

def get? (set : RelationSet) (name : String) : Option Reference :=
  set.references.find? (·.name = name)

/-- The relations that are written. -/
def writes (set : RelationSet) : List Reference := set.references.filter (·.role = .write)

def size (set : RelationSet) : Nat := set.references.length

def isEmpty (set : RelationSet) : Bool := set.references.isEmpty

end RelationSet

end QueryGateway
