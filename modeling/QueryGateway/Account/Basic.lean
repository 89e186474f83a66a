import QueryGateway.Config.Document

/-! Accounts: their keys, their subusers, and the access that relations have.

Relations are looked up by their qualified names: in lower case, and in the schema `public`
if no schema is given. -/
namespace QueryGateway

/-- Environment variables by their names. -/
abbrev Environment := String → Option String

/-- Who may touch a relation without a key: everyone for everything, everyone for reading,
or nobody. -/
inductive AccessLevel where
  | unguarded
  | writeGuarded
  | guarded
  deriving DecidableEq, Repr

/-- What a subuser may do with a relation. -/
inductive Privilege where
  | none
  | read
  | write
  | all
  deriving DecidableEq, Repr

namespace AccessLevel

def name : AccessLevel → String
  | .unguarded => "public"
  | .writeGuarded => "write_protected"
  | .guarded => "private"

def ofName? : String → Option AccessLevel
  | "public" => some .unguarded
  | "write_protected" => some .writeGuarded
  | "private" => some .guarded
  | _ => none

/-- Whether a key is needed for an access. -/
def needsKey : AccessLevel → (requireWrite : Bool) → Bool
  | .unguarded, _ => false
  | .writeGuarded, requireWrite => requireWrite
  | .guarded, _ => true

end AccessLevel

namespace Privilege

def name : Privilege → String
  | .none => "none"
  | .read => "read"
  | .write => "write"
  | .all => "all"

def ofName? : String → Option Privilege
  | "none" => some .none
  | "read" => some .read
  | "write" => some .write
  | "all" => some .all
  | _ => Option.none

def allowsRead (p : Privilege) : Bool := p ≠ .none

def allowsWrite (p : Privilege) : Bool := p = .write || p = .all

/-- Whether a privilege covers an access. -/
def allows (p : Privilege) (requireWrite : Bool) : Bool :=
  if requireWrite then p.allowsWrite else p.allowsRead

end Privilege

/-! ### Keys -/

/-- A key given in a variable of the environment, or else literally. An empty one counts as
none. -/
structure KeySource where
  literal : Option String := none
  variableName : Option String := none
  deriving DecidableEq, Repr

/-- The key that a source gives. -/
def KeySource.resolve (k : KeySource) (env : Environment) : Option String :=
  ((k.variableName.bind env).filter (!·.isEmpty)).or (k.literal.filter (!·.isEmpty))

/-! ### Relations -/

/-- A relation's name in lower case and with a schema. -/
def qualified (relation : String) : String :=
  let lowered := relation.toLower
  if lowered.toList.contains '.' then lowered else "public." ++ lowered

/-- The value of the first entry that names a relation. -/
def lookupRelation {α : Type} (table : List (String × α)) (relation : String) : Option α :=
  (table.find? fun entry => qualified entry.1 = qualified relation).map (·.2)

/-! ### Accounts -/

/-- One who shares in an account with a key and privileges of their own. -/
structure Subuser where
  key : KeySource := {}
  privileges : List (String × Privilege) := []
  deriving DecidableEq, Repr

/-- The privilege that a subuser has on a relation. -/
def Subuser.privilegeFor (s : Subuser) (relation : String) : Privilege :=
  (lookupRelation s.privileges relation).getD .none

/-- An account. -/
structure Account where
  key : KeySource := {}
  defaultAccess : AccessLevel := .writeGuarded
  relations : List (String × AccessLevel) := []
  subusers : List (String × Subuser) := []
  deriving DecidableEq, Repr

/-- The access level of a relation. -/
def Account.accessFor (a : Account) (relation : String) : AccessLevel :=
  (lookupRelation a.relations relation).getD a.defaultAccess

/-! ### Documents -/

open Config

/-- The fields of a key. -/
def KeySource.ofFields? (fs : Document.Fields) : Option KeySource := do
  return ⟨← fs.optional "api_key" Document.asText?, ← fs.optional "api_key_env" Document.asText?⟩

/-- Reads a subuser. -/
def Subuser.ofDocument? (d : Document) : Option Subuser := do
  let fs ← d.asSection? ["api_key", "api_key_env", "privileges"]
  return {
    key := ← KeySource.ofFields? fs
    privileges := ← fs.defaulted "privileges"
      (Document.asTable? (·.asChoice?.bind Privilege.ofName?)) [] }

/-- Reads an account. -/
def Account.ofDocument? (d : Document) : Option Account := do
  let fs ← d.asSection? ["api_key", "api_key_env", "default_access", "relations", "subusers"]
  let access (d : Document) : Option AccessLevel := d.asChoice?.bind AccessLevel.ofName?
  return {
    key := ← KeySource.ofFields? fs
    defaultAccess := ← fs.defaulted "default_access" access .writeGuarded
    relations := ← fs.defaulted "relations" (Document.asTable? access) []
    subusers := ← fs.defaulted "subusers" (Document.asTable? Subuser.ofDocument?) [] }

/-- The members of a key that are there. -/
def KeySource.members (k : KeySource) : List (String × Json) :=
  (k.literal.map fun s => ("api_key", Json.string s)).toList
    ++ (k.variableName.map fun s => ("api_key_env", Json.string s)).toList

def Subuser.toJson (s : Subuser) : Json :=
  .ofMembers (s.key.members
    ++ [("privileges", .ofMembers (s.privileges.map fun (k, p) => (k, .string p.name)))])

def Account.toJson (a : Account) : Json :=
  .ofMembers (a.key.members
    ++ [("default_access", .string a.defaultAccess.name),
        ("relations", .ofMembers (a.relations.map fun (k, l) => (k, .string l.name))),
        ("subusers", .ofMembers (a.subusers.map fun (k, s) => (k, s.toJson)))])

end QueryGateway
