import QueryGateway.Execution.Basic

/-! Errors of the connection to the database, and what they mean for the caller.

What the server says about a statement is the caller's affair; trouble with the pool or the
transport means that the database cannot be reached. The same error at the end of a
transaction means that the transaction failed. -/
namespace QueryGateway.Postgres

/-- An error of the connection. -/
inductive DriverError where
  | server (text : String)
  | poolTimedOut
  | poolClosed
  | workerCrashed
  | transport (text : String)
  | encryption (text : String)
  | configuration (text : String)
  | rowNotFound
  | columnNotFound (name : String)
  | protocolViolation (text : String)
  | unexpectedNull (column : String)
  deriving DecidableEq, Repr

namespace DriverError

/-- The text of an error. -/
def message : DriverError → String
  | .server text => text
  | .poolTimedOut => "pool timed out while waiting for an open connection"
  | .poolClosed => "attempted to acquire a connection on a closed pool"
  | .workerCrashed => "attempted to communicate with a crashed background worker"
  | .transport text => "error communicating with database: " ++ text
  | .encryption text => "error occurred while attempting to establish a TLS connection: " ++ text
  | .configuration text => "error with configuration: " ++ text
  | .rowNotFound => "no rows returned by a query that expected to return at least one row"
  | .columnNotFound name => "no column found for name: " ++ name
  | .protocolViolation text => "encountered unexpected or invalid data: " ++ text
  | .unexpectedNull column =>
    "error occurred while decoding column \"" ++ column
      ++ "\": unexpected null; try decoding as an \x60Option\x60"

/-- Whether the database cannot be reached. -/
def isOutage : DriverError → Bool
  | .poolTimedOut | .poolClosed | .workerCrashed | .transport _ | .encryption _
  | .configuration _ => true
  | _ => false

/-- What an error means for a statement. -/
def onStatement (e : DriverError) : ExecutionError :=
  if e.isOutage then .connection e.message else .statement e.message

/-- What an error means for the end of a transaction. -/
def onTransaction (e : DriverError) : ExecutionError :=
  if e.isOutage then .connection e.message else .transaction e.message

end DriverError

end QueryGateway.Postgres
