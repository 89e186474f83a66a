import QueryGateway.Dialogue
import QueryGateway.Postgres.Error

/-! Running statements on a server.

A query is wrapped so that the server returns its rows as one JSON array, or as one JSON
object for each row. Settings hold for one transaction: the encoding that the client asks
for, then the longest time for a statement. A transaction that is left without a commit is
rolled back by the connection. -/
namespace QueryGateway.Postgres

/-! ### The server -/

/-- What is asked of the server, and of whoever takes the rows of a stream. -/
inductive Call where
  /-- Opens a transaction on a connection of the pool. -/
  | openTransaction
  /-- Runs a statement with parameters, for the number of rows it affects. -/
  | execute (sql : String) (parameters : List String)
  /-- Runs a query, for the column of its first row. -/
  | fetchFirst (sql : String)
  /-- Runs a query, for the column of each of its rows. -/
  | fetchAll (sql : String)
  | commit
  | rollback
  /-- Gives the connection back. A transaction that is still open is rolled back. -/
  | leave
  /-- Hands on an item of a stream; the answer is whether another one is wanted. -/
  | emit (item : Except ExecutionError Json)

/-- What is answered. A column may be null, and there may be no row. -/
def Call.Answer : Call → Type
  | .openTransaction => Except DriverError Unit
  | .execute .. => Except DriverError Nat
  | .fetchFirst _ => Except DriverError (Option (Option Json))
  | .fetchAll _ => List (Except DriverError (Option Json))
  | .commit => Except DriverError Unit
  | .rollback => Except DriverError Unit
  | .leave => Unit
  | .emit _ => Bool

/-- A computation that talks to the server. -/
abbrev Session := Dialogue Call Call.Answer

def Call.put (c : Call) : Session c.Answer := Dialogue.question c

/-! ### Texts -/

/-- A query whose rows come as one JSON array. -/
def aggregate (sql : String) : String :=
  "SELECT coalesce(json_agg(t), '[]'::json) AS data FROM (" ++ sql ++ ") AS t"

/-- A query whose rows come as JSON objects. -/
def perRow (sql : String) : String := "SELECT to_jsonb(t) AS row FROM (" ++ sql ++ ") AS t"

/-- The statement that makes a setting for the rest of a transaction. -/
def setting : String := "SELECT set_config($1, $2, true)"

/-- The settings of a transaction, in the order in which they are made. -/
def settings (options : ExecutionOptions) (timeoutMs : Option Nat) : List (List String) :=
  (options.clientEncoding.map fun e => ["client_encoding", e]).toList
    ++ (timeoutMs.map fun n => ["statement_timeout", String.ofList (Nat.toDigits 10 n)]).toList

/-! ### Statements -/

/-- Makes settings one after the other until one fails. -/
def configure : List (List String) → Session (Except ExecutionError Unit)
  | [] => return .ok ()
  | parameters :: rest => do
    match ← (Call.execute setting parameters).put with
    | .error e => return .error e.onStatement
    | .ok _ => configure rest

/-- The value in the column of a row. -/
def columnValue (column : String) : Option Json → Except DriverError Json
  | some v => .ok v
  | none => .error (.unexpectedNull column)

/-- Runs a statement in an open transaction. -/
def run (sql : String) : ExecutionKind → Session (Except ExecutionError Outcome)
  | .query => do
    match ← (Call.fetchFirst (aggregate sql)).put with
    | .error e => return .error e.onStatement
    | .ok none => return .error DriverError.rowNotFound.onStatement
    | .ok (some cell) =>
      match columnValue "data" cell with
      | .ok v => return .ok (.rows v)
      | .error e => return .error e.onStatement
  | .mutation => do
    match ← (Call.execute sql []).put with
    | .error e => return .error e.onStatement
    | .ok n => return .ok (.affected n)

/-- Makes the settings and runs a statement in an open transaction. -/
def configureAndRun (sql : String) (options : ExecutionOptions) (timeoutMs : Option Nat) :
    Session (Except ExecutionError Outcome) := do
  match ← configure (settings options timeoutMs) with
  | .error e => return .error e
  | .ok () => run sql options.kind

/-- Runs a statement in a transaction of its own. -/
def execute (timeoutMs : Option Nat) (sql : String) (options : ExecutionOptions) :
    Session (Except ExecutionError Outcome) := do
  match ← Call.openTransaction.put with
  | .error e => return .error e.onStatement
  | .ok () =>
    match ← configureAndRun sql options timeoutMs with
    | .error e =>
      Call.leave.put
      return .error e
    | .ok outcome =>
      match ← Call.commit.put with
      | .error e =>
        Call.leave.put
        return .error e.onTransaction
      | .ok () => return .ok outcome

/-! ### Transactions of several statements -/

/-- An open transaction: whether its settings have been made. -/
structure Transaction where
  configured : Bool := false
  deriving DecidableEq, Repr

/-- Opens a transaction. -/
def openTransaction : Session (Except ExecutionError Transaction) := do
  match ← Call.openTransaction.put with
  | .error e => return .error e.onStatement
  | .ok () => return .ok {}

namespace Transaction

/-- Runs a statement. The first one makes the settings, as does each further one until they
have all been made. -/
def execute (t : Transaction) (timeoutMs : Option Nat) (sql : String)
    (options : ExecutionOptions) : Session (Except ExecutionError Outcome × Transaction) := do
  if t.configured then return (← run sql options.kind, t)
  else
    match ← configure (settings options timeoutMs) with
    | .error e => return (.error e, t)
    | .ok () => return (← run sql options.kind, ⟨true⟩)

/-- The end of a transaction, by a call that may fail. -/
def finish : Except DriverError Unit → Session (Except ExecutionError Unit)
  | .ok () => return .ok ()
  | .error e => do
    Call.leave.put
    return .error e.onTransaction

def commit : Session (Except ExecutionError Unit) := do finish (← Call.commit.put)

def rollback : Session (Except ExecutionError Unit) := do finish (← Call.rollback.put)

end Transaction

/-! ### Streams -/

/-- Hands on rows until one fails, which is handed on too, or no more are wanted. -/
def emitRows : List (Except DriverError (Option Json)) → Session Unit
  | [] => return ()
  | next :: rest => do
    match next.bind (columnValue "row") with
    | .ok row =>
      let wanted : Bool ← (Call.emit (.ok row)).put
      if wanted then emitRows rest
    | .error e => let _ ← (Call.emit (.error e.onStatement)).put

/-- Streams the rows of a query from a transaction of its own, which is never committed. -/
def stream (timeoutMs : Option Nat) (sql : String) (options : ExecutionOptions) :
    Session Unit := do
  match ← Call.openTransaction.put with
  | .error e => let _ ← (Call.emit (.error e.onStatement)).put
  | .ok () =>
    match ← configure (settings options timeoutMs) with
    | .error e => let _ ← (Call.emit (.error e)).put
    | .ok () => emitRows (← (Call.fetchAll (perRow sql)).put)
    Call.leave.put

end QueryGateway.Postgres
