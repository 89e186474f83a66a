import QueryGateway.Account.Authorizer
import QueryGateway.Collaboration
import QueryGateway.Inspection

/-! Clearing a statement to run: inspection, then authorization, then the account's key for
what creates an object. Nothing reaches the database before. -/
namespace QueryGateway

/-- Asks about relations one by one until one is denied. The answer is the last verdict, or
none if there are no relations. -/
def authorizeAll (account : String) (credentials : Credentials) (requireWrite : Bool)
    (known : List String) : List String → (last : Option Verdict) →
    Consultation (Except Denial (Option Verdict))
  | [], last => return .ok last
  | relation :: rest, _ => do
    let verdict ← (Call.authorize account ⟨relation, credentials, requireWrite, known⟩).put
    if verdict.success then
      authorizeAll account credentials requireWrite known rest (some verdict)
    else return .error ⟨relation, verdict⟩

/-- Asks about every relation of a statement in the order in which they are mentioned. -/
def checkRelations (account : String) (relations : RelationSet) (credentials : Credentials)
    (requireWrite : Bool) : Consultation (Except Denial (Option Verdict)) :=
  authorizeAll account credentials requireWrite relations.names relations.names none

/-- A statement cleared to run, with the last verdict on its relations if there was one. -/
structure Prepared where
  sql : String
  operation : Operation
  relations : RelationSet
  verdict : Option Verdict

/-- The credentials that come with a request. -/
def Request.credentials (r : Request) : Credentials := ⟨r.subuser, r.apiKey⟩

/-- Clears the statement of a request, or tells why not. -/
def prepare (policy : Policy) (r : Request) (account : AccountContext) :
    Consultation (Except Refusal Prepared) := do
  match inspect policy r.sql with
  | .error rejection => return .error (.rejected rejection)
  | .ok found =>
    match ← checkRelations account.name found.relations r.credentials
        found.operation.requiresWrite with
    | .error denial => return .error (.denied denial)
    | .ok verdict =>
      if found.operation = .createWithKey && !account.admits r.apiKey then
        return .error .wrongKey
      else return .ok ⟨r.sql, found.operation, found.relations, verdict⟩

end QueryGateway
