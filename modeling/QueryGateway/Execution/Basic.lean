import QueryGateway.Json.Reader
import QueryGateway.Request.Basic

/-! What is asked of the database, and what it answers. -/
namespace QueryGateway

/-- Why the database did not answer: it rejected the statement, it cannot be reached, or
the transaction failed. -/
inductive ExecutionError where
  | statement (text : String)
  | connection (text : String)
  | transaction (text : String)
  deriving DecidableEq, Repr

namespace ExecutionError

/-- The text that the caller reads. -/
def message : ExecutionError → String
  | .statement text => text
  | .connection text => "database unavailable: " ++ text
  | .transaction text => "transaction failed: " ++ text

/-- The status code that the caller gets. -/
def code : ExecutionError → UInt16
  | .statement _ => 400
  | .connection _ => 503
  | .transaction _ => 500

end ExecutionError

/-- Whether a statement returns rows, or changes the database and returns how many rows it
affected. -/
inductive ExecutionKind where
  | query
  | mutation
  deriving DecidableEq, Repr

/-- How the result of a statement is to be given. -/
structure ExecutionOptions where
  kind : ExecutionKind
  clientEncoding : Option String := none
  format : OutputFormat := .geojson
  geoformat : Option GeometryFormat := none
  allToStr : Bool := false
  aliased : Bool := false
  srs : String := "900913"
  deriving DecidableEq, Repr

/-- The options that a request asks for. -/
def Request.options (r : Request) (kind : ExecutionKind) : ExecutionOptions :=
  ⟨kind, r.clientEncoding, r.format, r.geoformat, r.allToStr, r.aliased, r.srs⟩

/-- What a statement produced. -/
structure Outcome where
  data : Json := .null
  affectedRows : Option Nat := none
  extra : Json.Members := []

namespace Outcome

/-- The outcome of a query. -/
def rows (data : Json) : Outcome := { data := data }

/-- The outcome of a change. -/
def affected (n : Nat) : Outcome := { affectedRows := some n }

/-- The members of the JSON form in their order; what is missing or empty is left out. -/
def members (o : Outcome) : List (String × Json) :=
  [("data", o.data)]
    ++ (o.affectedRows.map fun n => ("affected_rows", Json.ofNat n)).toList
    ++ (if o.extra.isEmpty then [] else [("extra", .object o.extra)])

/-- The names of the fields in their order. -/
def fieldNames : List String := ["data", "affected_rows", "extra"]

/-- Reads an outcome from its fields. -/
def ofFields? (fs : Json.Fields) : Option Outcome := do
  return {
    data := ← fs.defaulted "data" some .null
    affectedRows := ← fs.optional "affected_rows" Json.asNat64?
    extra := ← fs.defaulted "extra" Json.asObject? [] }

/-- Reads an outcome. -/
def ofJson? (v : Json) : Option Outcome := do ofFields? (← Json.fields? fieldNames v)

/-- Whether no field is written twice. -/
def distinctFields (ms : List (String × Json)) : Bool :=
  fieldNames.all fun name => (ms.filter (·.1 = name)).length ≤ 1

/-- Reads an outcome from JSON text, in which a field must not be written twice. -/
def ofText? (cs : List Char) : Option Outcome :=
  match Json.readObjectText cs with
  | some ms => if distinctFields ms then ofFields? (Json.Members.get? (.ofList ms)) else none
  | none => (Json.readText cs).bind ofJson?

end Outcome

end QueryGateway
