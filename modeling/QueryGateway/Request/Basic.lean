import QueryGateway.Json.Fields

/-! One request for a statement to be run, with everything that goes with it. -/
namespace QueryGateway

/-- The form in which rows are asked for. -/
inductive OutputFormat where
  | geojson
  | csv
  | excel
  deriving DecidableEq, Repr

/-- The form in which geometries are asked for. -/
inductive GeometryFormat where
  | geojson
  | wkt
  deriving DecidableEq, Repr

namespace OutputFormat

def name : OutputFormat → String
  | .geojson => "geojson"
  | .csv => "csv"
  | .excel => "excel"

def ofName? : String → Option OutputFormat
  | "geojson" => some .geojson
  | "csv" => some .csv
  | "excel" => some .excel
  | _ => none

end OutputFormat

namespace GeometryFormat

def name : GeometryFormat → String
  | .geojson => "geojson"
  | .wkt => "wkt"

def ofName? : String → Option GeometryFormat
  | "geojson" => some .geojson
  | "wkt" => some .wkt
  | _ => none

end GeometryFormat

/-- A request. The lifetime is how long its result may be kept; a zero one asks for no
caching. -/
structure Request where
  sql : String
  clientEncoding : Option String := none
  srs : String := "900913"
  format : OutputFormat := .geojson
  geoformat : Option GeometryFormat := none
  allToStr : Bool := false
  aliased : Bool := false
  apiKey : Option String := none
  lifetime : Span := .zero
  subuser : Option String := none
  stream : Bool := false
  deriving DecidableEq, Repr

namespace Request

/-- The same request for another statement. -/
def forStatement (r : Request) (sql : String) : Request := { r with sql := sql }

/-- Whether the result may be kept at all. -/
def wantsCache (r : Request) : Bool := !r.lifetime.isZero

def toJson (r : Request) : Json :=
  .ofMembers
    [("sql", .string r.sql), ("client_encoding", .ofOption .string r.clientEncoding),
     ("srs", .string r.srs), ("format", .string r.format.name),
     ("geoformat", .ofOption (.string ·.name) r.geoformat), ("all_to_str", .bool r.allToStr),
     ("alias", .bool r.aliased), ("api_key", .ofOption .string r.apiKey),
     ("lifetime", .ofSpan r.lifetime), ("subuser", .ofOption .string r.subuser),
     ("stream", .bool r.stream)]

/-- The names of the fields in their order. -/
def fieldNames : List String :=
  ["sql", "client_encoding", "srs", "format", "geoformat", "all_to_str", "alias", "api_key",
   "lifetime", "subuser", "stream"]

/-- Reads a request. Only the statement must be there; what has a value of its own when it
is missing must not be null. -/
def ofJson? (v : Json) : Option Request := do
  let fs ← Json.fields? fieldNames v
  return {
    sql := ← fs.required "sql" Json.asString?
    clientEncoding := ← fs.optional "client_encoding" Json.asString?
    srs := ← fs.defaulted "srs" Json.asString? "900913"
    format := ← fs.defaulted "format" (·.asChoice?.bind OutputFormat.ofName?) .geojson
    geoformat := ← fs.optional "geoformat" (·.asChoice?.bind GeometryFormat.ofName?)
    allToStr := ← fs.defaulted "all_to_str" Json.asBool? false
    aliased := ← fs.defaulted "alias" Json.asBool? false
    apiKey := ← fs.optional "api_key" Json.asString?
    lifetime := ← fs.defaulted "lifetime" Json.asSpan? .zero
    subuser := ← fs.optional "subuser" Json.asString?
    stream := ← fs.defaulted "stream" Json.asBool? false }

end Request

end QueryGateway
