import QueryGateway.Cache.Store
import QueryGateway.Dialogue
import QueryGateway.Refusal

/-! What the gateway asks of its collaborators: the authorizer of an account, the store of
results, and the database. -/
namespace QueryGateway

/-- A question to a collaborator. The calls from `begin` to `rollback` are about the one
transaction of a batch. -/
inductive Call where
  | authorize (account : String) (q : Question)
  | lookUp (key : Cache.Key)
  | keep (key : Cache.Key) (payload : List UInt8) (ttl : Span)
  | execute (sql : String) (options : ExecutionOptions)
  | openBatch
  | executeInBatch (sql : String) (options : ExecutionOptions)
  | commit
  | rollback
  | stream (sql : String) (options : ExecutionOptions)
  deriving DecidableEq, Repr

/-- What a collaborator answers. A stream answers with all its rows. -/
def Call.Answer : Call → Type
  | .authorize .. => Verdict
  | .lookUp _ => Except Cache.StoreError (Option Cache.Entry)
  | .keep .. => Except Cache.StoreError Unit
  | .execute .. => Except ExecutionError Outcome
  | .openBatch => Except ExecutionError Unit
  | .executeInBatch .. => Except ExecutionError Outcome
  | .commit => Except ExecutionError Unit
  | .rollback => Except ExecutionError Unit
  | .stream .. => List (Except ExecutionError Json)

/-- A computation that consults the collaborators. -/
abbrev Consultation := Dialogue Call Call.Answer

/-- Puts a call to the collaborator it concerns. -/
def Call.put (c : Call) : Consultation c.Answer := Dialogue.question c

end QueryGateway
