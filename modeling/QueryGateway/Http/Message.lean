import QueryGateway.Http.Target
import QueryGateway.Json.Printer
import QueryGateway.Text.Blank
import QueryGateway.Text.Utf8

/-! Requests and responses of the hypertext protocol. -/
namespace QueryGateway.Http

/-- A request. -/
structure Request where
  method : String
  target : Target
  headers : List (String × List UInt8) := []
  body : List UInt8 := []
  deriving DecidableEq, Repr

/-- A response. -/
structure Response where
  status : UInt16
  contentType : Option String := none
  body : List UInt8 := []
  deriving DecidableEq, Repr

/-! ### Headers -/

/-- Whether a character may stand in the name of a header or a method. -/
def isTokenChar (c : Char) : Bool :=
  c.isAlphanum || "!#$%&'*+-.^_\x60|~".toList.contains c

/-- Whether a text is the name of a header. -/
def isHeaderName (name : String) : Bool :=
  !name.isEmpty && name.length < 65536 && name.toList.all isTokenChar

/-- Whether bytes are the value of a header: among the controls, a tab alone may stand there. -/
def isHeaderValue (value : List UInt8) : Bool :=
  value.all fun b => (32 ≤ b && b ≠ 127) || b = 9

/-- The text of a header's value, if it has visible ASCII characters only; blanks and tabs
are among them. -/
def headerText? (value : List UInt8) : Option String :=
  if value.all fun b => (32 ≤ b && b < 127) || b = 9 then
    some (String.ofList (value.map fun b => Char.ofNat b.toNat))
  else none

/-- The first value of a header; the case of its name plays no part. -/
def Request.header? (r : Request) (name : String) : Option (List UInt8) :=
  (r.headers.find? fun h => h.1.toLower = name.toLower).map (·.2)

/-- The type of a request's content, without its parameters and in lower case. -/
def Request.contentType? (r : Request) : Option String := do
  let value ← headerText? (← r.header? "content-type")
  return (Text.trim (String.ofList (value.toList.takeWhile (· ≠ ';')))).toLower

/-- The request that its parts form, unless one of them is malformed. -/
def Request.ofParts? (method target : String) (headers : List (String × List UInt8))
    (body : List UInt8) : Option Request := do
  let target ← Target.read? target
  if !method.isEmpty && method.toList.all isTokenChar
      && headers.all fun (name, value) => isHeaderName name && isHeaderValue value then
    return { method, target, headers, body }
  else none

/-! ### Bodies -/

/-- A JSON response. -/
def Response.ofJson (status : UInt16) (v : Json) : Response :=
  ⟨status, some "application/json", Text.Utf8.encodeChars v.renderChars⟩

/-- A response in plain text. -/
def Response.ofText (status : UInt16) (text : String) : Response :=
  ⟨status, some "text/plain; charset=utf-8", Text.Utf8.encode text⟩

/-- A response without content. -/
def Response.empty (status : UInt16) : Response := { status := status }

end QueryGateway.Http
