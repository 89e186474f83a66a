import QueryGateway.Config.Basic
import QueryGateway.Gateway
import QueryGateway.Http.Message
import QueryGateway.Request.Params

/-! The gateway as a service of the hypertext protocol.

A statement comes as parameters of a query string, a form or a JSON body; a batch comes as
plain text. For a statement the key among the parameters goes before the one in the header,
for a batch it is the other way round. A failure has the status of its code. -/
namespace QueryGateway.Http

/-- A service: a gateway, the accounts it is for, and its limits. -/
structure Service where
  gateway : Gateway
  directory : Directory
  environment : Environment
  apiKeyHeader : String
  maxBodyBytes : Nat

/-- Why a service cannot start. -/
inductive StartFault where
  | headerName (name : String)
  deriving DecidableEq, Repr

/-- The text of a fault. -/
def StartFault.message : StartFault → String
  | .headerName name => "invalid api_key_header '" ++ name ++ "': invalid HTTP header name"

/-- The service that a configuration describes in front of a gateway. -/
def Service.ofConfig (c : Config) (env : Environment) (gateway : Gateway) :
    Except StartFault Service :=
  if isHeaderName c.server.apiKeyHeader then
    .ok ⟨gateway, c.accounts, env, c.server.apiKeyHeader, c.server.maxBodyBytes⟩
  else .error (.headerName c.server.apiKeyHeader)

/-! ### Responses -/

/-- The status of an envelope; a code that is no status is a server's error. -/
def statusOf (e : Envelope) : UInt16 :=
  let code := e.httpStatus
  if 100 ≤ code && code < 1000 then code else 500

/-- The response that carries an envelope. -/
def envelopeResponse (e : Envelope) : Response := .ofJson (statusOf e) e.toJson

/-- A JSON value on a line of its own. -/
def lineOf (v : Json) : List Char := v.renderChars ++ ['\n']

/-- The lines of a stream: each row, and at the first failure its envelope. -/
def streamLines (g : Gateway) : List (Except ExecutionError Json) → List Char
  | [] => []
  | .ok row :: rest => lineOf row ++ streamLines g rest
  | .error e :: _ => lineOf (g.failure (.execution e)).toJson

/-- The response to a request for a stream. -/
def streamResponse (g : Gateway) : StreamAnswer → Response
  | .envelope e => envelopeResponse e
  | .rows rows => ⟨200, some "application/x-ndjson", Text.Utf8.encodeChars (streamLines g rows)⟩

/-! ### Parameters -/

/-- The parameters of a request: those of the query string, then those of the body. -/
def collectParams (r : Request) : Params :=
  let params := Params.ofQuery r.target.query
  if r.body.isEmpty then params
  else if r.contentType? = some "application/x-www-form-urlencoded" then params.mergeForm r.body
  else
    match (Text.Utf8.decode? r.body).bind Json.read with
    | some v => params.mergeJson v
    | none => params

namespace Service

/-- The key in the header. -/
def headerKey? (s : Service) (r : Request) : Option String :=
  ((r.header? s.apiKeyHeader).bind headerText?).bind fun value =>
    let key := Text.trim value
    if key.isEmpty then none else some key

/-- The account that a request is made for. -/
def resolve (s : Service) (name : String) : Except Refusal AccountContext :=
  match s.directory.context? s.environment name with
  | some account => .ok account
  | none => .error (.unknownAccount name)

/-! ### Statements and batches -/

/-- The request for a statement and the account it is made for. -/
def statementRequest (s : Service) (user : String) (params : Params) (r : Request) :
    Except Refusal (QueryGateway.Request × AccountContext) := do
  let (subuser, name) := splitUser user
  let request ← params.request subuser ((params.get? "key").or (s.headerKey? r))
  return (request, ← s.resolve name)

/-- Answers a request for a statement. -/
def answerStatement (s : Service) (user : String) (params : Params) (r : Request)
    (stream : Bool) : Consultation Response := do
  match s.statementRequest user params r with
  | .error refusal => return envelopeResponse (s.gateway.failure refusal)
  | .ok (request, account) =>
    if stream then
      return streamResponse s.gateway
        (← s.gateway.openStream { request with stream := true } account)
    else return envelopeResponse (← s.gateway.runSingle request account)

/-- The template for the statements of a batch and the account it is made for. -/
def batchRequest (s : Service) (user : String) (r : Request) :
    Except Refusal (QueryGateway.Request × AccountContext) := do
  let (subuser, name) := splitUser user
  let params := Params.ofQuery r.target.query
  let template ← params.template subuser ((s.headerKey? r).or (params.get? "key"))
  return (template, ← s.resolve name)

/-- Answers a request for a batch. -/
def answerBatch (s : Service) (user : String) (r : Request) : Consultation Response := do
  match s.batchRequest user r with
  | .error refusal => return envelopeResponse (s.gateway.failure refusal)
  | .ok (template, account) =>
    return envelopeResponse
      (← s.gateway.runBatch (Text.Utf8.decodeLossy r.body) template account)

/-! ### Routes -/

/-- What a path leads to. -/
inductive Route where
  | health
  | statement (user : String)
  | stream (user : String)

/-- The parts of a path between slashes, of which `current` were read since the last one,
the last character first. -/
def pathParts (current : List Char) : List Char → List (List Char)
  | [] => [current.reverse]
  | '/' :: rest => current.reverse :: pathParts [] rest
  | c :: rest => pathParts (c :: current) rest

/-- The route of a path. A path that ends at the user has one that is not empty. -/
def Route.ofPath? (path : String) : Option Route :=
  match (pathParts [] path.toList).map String.ofList with
  | ["", "healthz"] => some .health
  | ["", "api", "v2", "sql", user] => if user.isEmpty then none else some (.statement user)
  | ["", "api", "v2", "sql", user, "stream"] => some (.stream user)
  | _ => none

/-- The user that a part of a path names, unless it is no text. -/
def decodeUser? (part : String) : Option String :=
  Text.Utf8.decode? (Text.Percent.decode (Text.Utf8.encode part))

/-- Answers a request whose path names a user. -/
def answerUser (s : Service) (part : String) (r : Request)
    (answer : String → Consultation Response) : Consultation Response :=
  match decodeUser? part with
  | none => pure (.ofText 400 "Invalid URL: Invalid UTF-8 in \x60user\x60")
  | some user =>
    if s.maxBodyBytes < r.body.length then
      pure (.ofText 413 "Failed to buffer the request body: length limit exceeded")
    else answer user

/-- Answers a request to run a statement or a batch. -/
def answerSql (s : Service) (r : Request) (user : String) : Consultation Response :=
  if r.method = "POST" && r.contentType? = some "text/plain" then s.answerBatch user r
  else
    let params := collectParams r
    s.answerStatement user params r params.wantsStream

/-- Whether a route takes a method. -/
def Route.takes : Route → (method : String) → Bool
  | .health, method => method = "GET" || method = "HEAD"
  | .statement _, method | .stream _, method =>
    method = "GET" || method = "HEAD" || method = "POST"

/-- Answers a request along its route. -/
def follow (s : Service) (r : Request) : Route → Consultation Response
  | .health =>
    pure (.ofJson 200 (.ofMembers [("ok", .bool true), ("service", .string "sqlgate")]))
  | .statement part => s.answerUser part r (s.answerSql r)
  | .stream part =>
    s.answerUser part r fun user => s.answerStatement user (collectParams r) r true

/-- Answers a request. One for the head of a response gets it without its body. -/
def answer (s : Service) (r : Request) : Consultation Response :=
  match Route.ofPath? r.target.path with
  | none => pure (.empty 404)
  | some route =>
    if route.takes r.method then do
      let response ← s.follow r route
      return if r.method = "HEAD" then { response with body := [] } else response
    else pure (.empty 405)

end Service

end QueryGateway.Http
