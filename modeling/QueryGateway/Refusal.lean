import QueryGateway.Authorization.Question
import QueryGateway.Execution.Basic
import QueryGateway.Policy

/-! Every way in which a request can be turned away or fail. -/
namespace QueryGateway

/-- Why a request was not answered with a result. -/
inductive Refusal where
  | rejected (r : Rejection)
  | missingQuery
  | denied (d : Denial)
  | wrongKey
  | execution (e : ExecutionError)
  | request (text : String)
  | unknownAccount (name : String)

namespace Refusal

/-- The text that the caller reads. -/
def message : Refusal → String
  | .rejected r => r.message
  | .missingQuery => "Query is missing (the 'q' parameter)"
  | .denied d => d.message
  | .wrongKey => "Not the right key!"
  | .execution e => e.message
  | .request text => text
  | .unknownAccount name => "Account '" ++ name ++ "' not found"

/-- The status code that the caller gets. -/
def code : Refusal → UInt16
  | .rejected r => r.code
  | .missingQuery => 403
  | .denied d => d.verdict.code
  | .wrongKey => 403
  | .execution e => e.code
  | .request _ => 400
  | .unknownAccount _ => 404

/-- What the caller sees of a denial. -/
def authCheck? : Refusal → Option Json.Members
  | .denied d => some d.verdict.summary
  | _ => none

end Refusal

end QueryGateway
