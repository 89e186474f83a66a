import QueryGateway.Json.Printer
import QueryGateway.Refusal
import QueryGateway.Text.Base64
import QueryGateway.Text.Blank
import QueryGateway.Text.Form

/-! The parameters of a request, and the request they make.

Parameters come from a query string, a form or a JSON object. A later value replaces an
earlier one, but an empty value counts as absent and replaces nothing. -/
namespace QueryGateway

/-- Parameters by their keys, each key once. -/
structure Params where
  pairs : List (String × String) := []
  deriving DecidableEq, Repr

namespace Params

def get? (p : Params) (key : String) : Option String := p.pairs.lookup key

/-- Pairs with a key set to a value. -/
def set (key value : String) : List (String × String) → List (String × String)
  | [] => [(key, value)]
  | (k, v) :: rest => if k = key then (key, value) :: rest else (k, v) :: set key value rest

/-- Sets a parameter, unless the value is empty. -/
def insert (p : Params) (key value : String) : Params :=
  if value.isEmpty then p else ⟨set key value p.pairs⟩

/-- Sets parameters one after the other. -/
def insertAll (p : Params) (pairs : List (String × String)) : Params :=
  pairs.foldl (fun p (k, v) => p.insert k v) p

/-- The parameters of pairs. -/
def ofPairs (pairs : List (String × String)) : Params := insertAll {} pairs

/-- Adds the pairs of a form. -/
def mergeForm (p : Params) (body : List UInt8) : Params := p.insertAll (Text.Form.decode body)

/-- The parameters of a query string, if there is one. -/
def ofQuery (query : Option (List UInt8)) : Params :=
  match query with
  | some bs => mergeForm {} bs
  | none => {}

/-- The text of a JSON value as a parameter; null is none. -/
def textOf? : Json → Option String
  | .null => none
  | .string s => some s
  | v => some v.render

/-- Adds the members of a JSON object; other values have none. -/
def mergeJson (p : Params) (body : Json) : Params :=
  p.insertAll <| (body.asObject?.getD []).filterMap fun (k, v) => (textOf? v).map (k, ·)

/-- Whether a parameter is set to a word for yes. -/
def flag (p : Params) (key : String) : Bool :=
  match p.get? key with
  | some v => v = "true" || v = "1"
  | none => false

/-- Whether rows are to be streamed. -/
def wantsStream (p : Params) : Bool := p.get? "method" = some "stream"

/-! ### The statement -/

/-- The text that a parameter in base 64 stands for; what stands for none is empty. -/
def base64Text (raw : String) : String :=
  ((Text.Base64.decode? (Text.trimChars raw.toList)).bind Text.Utf8.decode?).getD ""

/-- The text that a percent-encoded parameter stands for; what stands for none is left as
it is. -/
def percentText (raw : String) : String :=
  (Text.Utf8.decode? (Text.Percent.decode (Text.Utf8.encode raw))).getD raw

/-- The statement, which must not be blank. -/
def statement (p : Params) : Except Refusal String :=
  match p.get? "q" with
  | none => .error .missingQuery
  | some raw =>
    let sql := if p.flag "base64" then base64Text raw else percentText raw
    if Text.isBlankText sql then .error .missingQuery else .ok sql

/-! ### Everything else -/

/-- The form in which rows are asked for. -/
def outputFormat? (raw : Option String) : Except Refusal OutputFormat :=
  match raw with
  | none => .ok .geojson
  | some name =>
    match OutputFormat.ofName? name with
    | some f => .ok f
    | none => .error (.request (name ++ " is not a supported format."))

/-- The form in which geometries are asked for; an empty one and `null` ask for none. -/
def geometryFormat? (raw : Option String) : Except Refusal (Option GeometryFormat) :=
  match raw with
  | none => .ok none
  | some name =>
    if name = "" || name = "null" then .ok none
    else
      match GeometryFormat.ofName? name with
      | some f => .ok (some f)
      | none => .error (.request (name ++ " is not a supported geom format."))

/-- The number of seconds that a text spells: decimal digits, with a plus sign or without,
below the greatest number of seconds. -/
def seconds? (cs : List Char) : Option Nat :=
  let ds := match cs with
    | '+' :: rest => rest
    | cs => cs
  if ds = [] || !ds.all Char.isDigit then none
  else
    let n := ds.foldl (fun n c => n * 10 + (c.toNat - '0'.toNat)) 0
    if n < Span.secondsLimit then some n else none

/-- The lifetime that is asked for. -/
def lifetime? (raw : Option String) : Except Refusal Span :=
  match raw with
  | none => .ok .zero
  | some text =>
    match seconds? text.toList with
    | some n => .ok (.ofSeconds n)
    | none => .error (.request (text ++ " is not a valid lifetime in seconds."))

/-- The request without its statement. -/
def template (p : Params) (subuser apiKey : Option String) : Except Refusal Request := do
  let format ← outputFormat? (p.get? "format")
  let geoformat ← geometryFormat? (p.get? "geoformat")
  let lifetime ← lifetime? (p.get? "lifetime")
  return {
    sql := "", clientEncoding := p.get? "client_encoding", srs := (p.get? "srs").getD "900913"
    format := format, geoformat := geoformat, allToStr := p.flag "allstr"
    aliased := p.flag "alias", apiKey := apiKey, lifetime := lifetime, subuser := subuser
    stream := p.wantsStream }

/-- The request for one statement. -/
def request (p : Params) (subuser apiKey : Option String) : Except Refusal Request := do
  let sql ← p.statement
  return (← p.template subuser apiKey).forStatement sql

end Params

/-! ### Addresses -/

/-- The subuser, if any, and the account that a name such as `surveyor@roads` addresses: the
parts before and after the first `@`, if neither is empty. -/
def splitUser (user : String) : Option String × String :=
  let cs := user.toList
  let subuser := cs.takeWhile (· ≠ '@')
  match cs.dropWhile (· ≠ '@') with
  | _ :: account =>
    if subuser.isEmpty || account.isEmpty then (none, user)
    else (some (String.ofList subuser), String.ofList account)
  | [] => (none, user)

end QueryGateway
