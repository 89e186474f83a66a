import QueryGateway.Account.Authorizer
import QueryGateway.Policy

/-! The configuration of a gateway.

Every section and every field may be left out and has a value of its own then. A
configuration is valid if it has an account, every account has a key and a name without an
`@`, and a cache that is enabled is purged at some interval. -/
namespace QueryGateway

namespace Config

/-- How the service is reached. -/
structure Server where
  bind : String := "0.0.0.0:8080"
  apiKeyHeader : String := "GC2-API-KEY"
  maxBodyBytes : Nat := 10 * 1024 * 1024
  deriving DecidableEq, Repr

/-- How many connections to the database there may be, and how long to wait for one. -/
structure Pool where
  minConnections : Nat := 1
  maxConnections : Nat := 10
  acquireTimeoutSecs : Nat := 30
  deriving DecidableEq, Repr

/-- The database behind the gateway. Its address may come from the environment. -/
structure Database where
  url : String := "postgresql://postgres@localhost:5432/postgres"
  urlVariable : Option String := none
  pool : Pool := {}
  statementTimeoutMs : Option Nat := none
  deriving DecidableEq, Repr

/-- Whether results are kept, for how long at most, and how often they are purged. -/
structure Caching where
  enabled : Bool := true
  maxLifetimeSecs : Nat := 86400
  purgeIntervalSecs : Nat := 60
  deriving DecidableEq, Repr

/-- What is logged. -/
structure Logging where
  level : String := "info"
  deriving DecidableEq, Repr

end Config

/-- A configuration. -/
structure Config where
  server : Config.Server := {}
  database : Config.Database := {}
  caching : Config.Caching := {}
  policy : Policy := {}
  logging : Config.Logging := {}
  accounts : Directory := []
  deriving DecidableEq, Repr

namespace Config

/-! ### Documents -/

/-- Reads the section of the server. -/
def Server.ofDocument? (d : Document) : Option Server := do
  let fs ← d.asSection? ["bind", "api_key_header", "max_body_bytes"]
  let base : Server := {}
  return {
    bind := ← fs.defaulted "bind" Document.asText? base.bind
    apiKeyHeader := ← fs.defaulted "api_key_header" Document.asText? base.apiKeyHeader
    maxBodyBytes := ← fs.defaulted "max_body_bytes" (Document.asNatBelow? (Nat.pow 2 64))
      base.maxBodyBytes }

/-- Reads the section of the pool. -/
def Pool.ofDocument? (d : Document) : Option Pool := do
  let fs ← d.asSection? ["min_connections", "max_connections", "acquire_timeout_secs"]
  let base : Pool := {}
  return {
    minConnections := ← fs.defaulted "min_connections" (Document.asNatBelow? (Nat.pow 2 32))
      base.minConnections
    maxConnections := ← fs.defaulted "max_connections" (Document.asNatBelow? (Nat.pow 2 32))
      base.maxConnections
    acquireTimeoutSecs := ← fs.defaulted "acquire_timeout_secs"
      (Document.asNatBelow? (Nat.pow 2 64)) base.acquireTimeoutSecs }

/-- Reads the section of the database. -/
def Database.ofDocument? (d : Document) : Option Database := do
  let fs ← d.asSection? ["url", "url_env", "pool", "statement_timeout_ms"]
  let base : Database := {}
  return {
    url := ← fs.defaulted "url" Document.asText? base.url
    urlVariable := ← fs.optional "url_env" Document.asText?
    pool := ← fs.defaulted "pool" Pool.ofDocument? base.pool
    statementTimeoutMs := ← fs.optional "statement_timeout_ms"
      (Document.asNatBelow? (Nat.pow 2 64)) }

/-- Reads the section of the cache. -/
def Caching.ofDocument? (d : Document) : Option Caching := do
  let fs ← d.asSection? ["enabled", "max_lifetime_secs", "purge_interval_secs"]
  let base : Caching := {}
  return {
    enabled := ← fs.defaulted "enabled" Document.asBool? base.enabled
    maxLifetimeSecs := ← fs.defaulted "max_lifetime_secs" (Document.asNatBelow? (Nat.pow 2 64))
      base.maxLifetimeSecs
    purgeIntervalSecs := ← fs.defaulted "purge_interval_secs" (Document.asNatBelow? (Nat.pow 2 64))
      base.purgeIntervalSecs }

/-- Reads the section of the policy. -/
def policyOfDocument? (d : Document) : Option Policy := do
  let fs ← d.asSection? ["forbidden_schemas", "forbidden_tables"]
  let base : Policy := {}
  return {
    schemas := ← fs.defaulted "forbidden_schemas" (Document.asList? Document.asText?) base.schemas
    tables := ← fs.defaulted "forbidden_tables" (Document.asList? Document.asText?) base.tables }

/-- Reads the section of logging. -/
def Logging.ofDocument? (d : Document) : Option Logging := do
  let fs ← d.asSection? ["level"]
  let base : Logging := {}
  return { level := ← fs.defaulted "level" Document.asText? base.level }

/-- Reads a configuration. -/
def ofDocument? (d : Document) : Option Config := do
  let fs ← d.asSection? ["server", "upstream", "cache", "policy", "logging", "accounts"]
  return {
    server := ← fs.defaulted "server" Server.ofDocument? {}
    database := ← fs.defaulted "upstream" Database.ofDocument? {}
    caching := ← fs.defaulted "cache" Caching.ofDocument? {}
    policy := ← fs.defaulted "policy" policyOfDocument? {}
    logging := ← fs.defaulted "logging" Logging.ofDocument? {}
    accounts := ← fs.defaulted "accounts" (Document.asTable? Account.ofDocument?) [] }

/-! ### The database's address -/

namespace Database

/-- The address in the environment, unless it is empty. -/
def variableUrl? (d : Database) (env : Environment) : Option String :=
  (d.urlVariable.bind env).filter (!·.isEmpty)

/-- The address to connect to. -/
def connectionUrl (d : Database) (env : Environment) : String := (d.variableUrl? env).getD d.url

/-- Whether the address comes from the environment. -/
def urlFromEnvironment (d : Database) (env : Environment) : Bool := (d.variableUrl? env).isSome

/-- What follows the first `://` of an address, if there is one. -/
def afterScheme? : List Char → Option (List Char)
  | ':' :: '/' :: '/' :: rest => some rest
  | _ :: rest => afterScheme? rest
  | [] => none

/-- What follows the last `@`, or everything if there is none. -/
def afterCredentials (cs : List Char) : List Char :=
  (cs.reverse.takeWhile (· ≠ '@')).reverse

/-- The target of an address: what follows its scheme, without credentials. -/
def targetOf (url : List Char) : List Char :=
  match afterScheme? url with
  | some rest => afterCredentials rest
  | none => url

/-- The target of the database, as it may be shown to anyone. -/
def displayTarget (d : Database) (env : Environment) : String :=
  String.ofList (targetOf (d.connectionUrl env).toList)

end Database

/-- The variables of the environment that a configuration refers to. -/
def variableNames (c : Config) : List String :=
  c.database.urlVariable.toList ++ c.accounts.flatMap fun (_, a) =>
    a.key.variableName.toList ++ a.subusers.flatMap fun (_, s) => s.key.variableName.toList

/-! ### Validity -/

/-- What makes a configuration invalid. -/
inductive Complaint where
  | noAccount
  | accountName (name : String)
  | noKey (account : String)
  | noPurge
  deriving DecidableEq, Repr

/-- The text of a complaint. -/
def Complaint.message : Complaint → String
  | .noAccount => "at least one account must be configured"
  | .accountName name => "account name '" ++ name ++ "' must not contain '@'"
  | .noKey account => "account '" ++ account ++ "' has no API key (set api_key or api_key_env)"
  | .noPurge => "cache.purge_interval_secs must be greater than zero"

/-- Checks one account. -/
def validateAccount (env : Environment) (name : String) (a : Account) : Except Complaint Unit :=
  if name.toList.contains '@' then .error (.accountName name)
  else if (a.key.resolve env).isNone then .error (.noKey name)
  else .ok ()

/-- Checks a configuration. -/
def validate (c : Config) (env : Environment) : Except Complaint Unit := do
  if c.accounts.isEmpty then .error .noAccount
  c.accounts.forM fun (name, a) => validateAccount env name a
  if c.caching.enabled && c.caching.purgeIntervalSecs = 0 then .error .noPurge

/-! ### JSON and the summary -/

def Server.toJson (s : Server) : Json :=
  .ofMembers [("bind", .string s.bind), ("api_key_header", .string s.apiKeyHeader),
    ("max_body_bytes", .ofNat s.maxBodyBytes)]

def Pool.toJson (p : Pool) : Json :=
  .ofMembers [("min_connections", .ofNat p.minConnections),
    ("max_connections", .ofNat p.maxConnections),
    ("acquire_timeout_secs", .ofNat p.acquireTimeoutSecs)]

def Database.toJson (d : Database) : Json :=
  .ofMembers ([("url", .string d.url), ("pool", d.pool.toJson)]
    ++ (d.urlVariable.map fun s => ("url_env", Json.string s)).toList
    ++ (d.statementTimeoutMs.map fun n => ("statement_timeout_ms", Json.ofNat n)).toList)

def Caching.toJson (c : Caching) : Json :=
  .ofMembers [("enabled", .bool c.enabled), ("max_lifetime_secs", .ofNat c.maxLifetimeSecs),
    ("purge_interval_secs", .ofNat c.purgeIntervalSecs)]

def policyToJson (p : Policy) : Json :=
  .ofMembers [("forbidden_schemas", .array (p.schemas.map .string)),
    ("forbidden_tables", .array (p.tables.map .string))]

def toJson (c : Config) : Json :=
  .ofMembers
    [("server", c.server.toJson), ("upstream", c.database.toJson), ("cache", c.caching.toJson),
     ("policy", policyToJson c.policy),
     ("logging", .ofMembers [("level", .string c.logging.level)]),
     ("accounts", .ofMembers (c.accounts.map fun (name, a) => (name, a.toJson)))]

/-- A natural in decimal digits. -/
def decimal (n : Nat) : String := String.ofList (Nat.toDigits 10 n)

/-- Names between commas. -/
def commaList (names : List String) : String := String.intercalate ", " names

/-- The line about an account. -/
def accountLine (name : String) (a : Account) : String :=
  let guarded := (a.relations.filter fun entry => entry.2 = .guarded).length
  "account " ++ name ++ ": " ++ decimal a.relations.length ++ " relations (" ++ decimal guarded
    ++ " private), " ++ decimal a.subusers.length ++ " subusers"

/-- What a configuration amounts to, line by line; accounts come in the order of their
names. -/
def summary (c : Config) (env : Environment) : List String :=
  ["bind: " ++ c.server.bind,
   "upstream: " ++ c.database.displayTarget env
     ++ (if c.database.urlFromEnvironment env then " (from environment)" else ""),
   if c.caching.enabled then
     "cache: enabled, max lifetime " ++ decimal c.caching.maxLifetimeSecs ++ "s, purge every "
       ++ decimal c.caching.purgeIntervalSecs ++ "s"
   else "cache: disabled",
   "forbidden: schemas [" ++ commaList c.policy.schemas ++ "], tables ["
     ++ commaList c.policy.tables ++ "]"]
  ++ (c.accounts.mergeSort fun a b => decide (a.1 ≤ b.1)).map fun (name, a) => accountLine name a

end Config

end QueryGateway
