import QueryGateway.Account.Basic
import QueryGateway.Authorization.Question

/-! Authorization by the access levels of an account.

A relation whose level asks for no key may be touched by anyone. Where a key is needed, a
caller without a subuser's name must have the account's key, and a subuser must have their
own key and a privilege on the relation that covers the access. -/
namespace QueryGateway

/-- Whether the key that is supplied is the one expected; an empty key never is. -/
def keyMatches (expected supplied : Option String) : Bool :=
  match expected, supplied with
  | some expected, some supplied => !supplied.isEmpty && expected = supplied
  | _, _ => false

namespace Account

/-- The verdict on a wrong key. -/
def wrongKey (relation : String) : Verdict :=
  .denied 403 ("Forbidden. Not the right key for relation '" ++ relation ++ "'")

/-- The verdict on a subuser without the privilege that an access needs. -/
def lacksPrivilege (subuser relation : String) (requireWrite : Bool) : Verdict :=
  .denied 403 ("Forbidden. Subuser '" ++ subuser ++ "' lacks "
    ++ (if requireWrite then "write" else "read") ++ " privilege on '" ++ relation ++ "'")

/-- The verdict on an access that is allowed. -/
def grant (access : AccessLevel) (q : Question) : Verdict :=
  (Verdict.granted.withDetail "auth_level" (.string access.name)).withDetail
    "checked_relations" (.ofNat q.known.length)

/-- The verdict of an account, known by a name, on a question. -/
def authorize (env : Environment) (name : String) (a : Account) (q : Question) : Verdict :=
  let access := a.accessFor q.relation
  if access.needsKey q.requireWrite then
    match q.credentials.subuser with
    | none =>
      if keyMatches (a.key.resolve env) q.credentials.apiKey then
        (grant access q).withDetail "session" (.string name)
      else wrongKey q.relation
    | some subuser =>
      match a.subusers.lookup subuser with
      | none => wrongKey q.relation
      | some s =>
        if keyMatches (s.key.resolve env) q.credentials.apiKey then
          if (s.privilegeFor q.relation).allows q.requireWrite then
            (grant access q).withDetail "session" (.string (subuser ++ "@" ++ name))
          else lacksPrivilege subuser q.relation q.requireWrite
        else wrongKey q.relation
  else grant access q

end Account

/-! ### All accounts -/

/-- Accounts by their names. -/
abbrev Directory := List (String × Account)

/-- The account that a request is made for: its name, and its key if it has one. -/
structure AccountContext where
  name : String
  apiKey : Option String
  deriving DecidableEq, Repr

namespace Directory

/-- The account with a name, case included. -/
def get? (d : Directory) (name : String) : Option Account := d.lookup name

/-- The key of an account. -/
def apiKey? (env : Environment) (d : Directory) (name : String) : Option String :=
  (d.get? name).bind (·.key.resolve env)

/-- The account with a name, as requests are made for it. -/
def context? (env : Environment) (d : Directory) (name : String) : Option AccountContext :=
  (d.get? name).map fun a => ⟨name, a.key.resolve env⟩

end Directory

/-- Whether a key may create objects in an account: it is the account's own, which must not
be empty. -/
def AccountContext.admits (a : AccountContext) (supplied : Option String) : Bool :=
  match a.apiKey, supplied with
  | some expected, some supplied => !expected.isEmpty && expected = supplied
  | _, _ => false

end QueryGateway
