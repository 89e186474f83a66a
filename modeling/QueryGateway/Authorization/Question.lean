import QueryGateway.Authorization.Verdict
import QueryGateway.Relation.Basic

/-! What an authorizer is asked. -/
namespace QueryGateway

/-- Who asks. -/
structure Credentials where
  subuser : Option String := none
  apiKey : Option String := none
  deriving DecidableEq, Repr

/-- The question whether a caller may read a relation, or write it. It comes with all the
relations that the statement mentions. -/
structure Question where
  relation : String
  credentials : Credentials
  requireWrite : Bool
  known : List String
  deriving DecidableEq, Repr

/-- A relation that may not be touched, with the verdict on it. -/
structure Denial where
  relation : String
  verdict : Verdict

/-- The text that the caller reads. -/
def Denial.message (d : Denial) : String := d.verdict.message.getD "Forbidden"

end QueryGateway
