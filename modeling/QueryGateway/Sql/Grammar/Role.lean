import QueryGateway.Sql.Grammar.Option

/-! The statements that make roles and users, and change them. -/
namespace QueryGateway.Sql.Grammar

open Phrase Ast

/-! ### Roles -/

/-- The password of a role, after the word. -/
def password : Phrase Unit := do
  if ← has .NULL then pure () else unkept constant

/-- How many connections a role may have, after the first word. -/
def connectionLimit : Phrase Unit := do
  expect .LIMIT
  numeral

/-- Until when a password holds, after the first word. -/
def validity : Phrase Unit := do
  expect .UNTIL
  let _ ← constant

/-- What follows a keyword, if it comes next. -/
def clause (k : Keyword) (p : Phrase Unit) : Phrase (Option Unit) :=
  presence do
    if ← has k then
      p
      return true
    else return false

/-- The rights that a role may have or lack, each with the two words for it. -/
def roleRights : List (List Keyword) :=
  [[.LOGIN, .NOLOGIN], [.INHERIT, .NOINHERIT], [.BYPASSRLS, .NOBYPASSRLS],
   [.CREATEDB, .NOCREATEDB], [.CREATEROLE, .NOCREATEROLE], [.SUPERUSER, .NOSUPERUSER],
   [.REPLICATION, .NOREPLICATION]]

/-- The rights and properties of a role, as alternatives. -/
def roleOptions : List (Phrase (Option Unit)) :=
  roleRights.map (fun ks => presence (do return (← hasAny ks).isSome)) ++
    [clause .PASSWORD password, clause .CONNECTION connectionLimit, clause .VALID validity]

/-- New roles. Each right or property is told once. -/
def newRole : Phrase Statement := do
  let _ ← ifNotExists
  let _ ← names
  skipAny [.WITH]
  let _ ← eachOnce <| roleOptions ++
    [membership [.IN, .ROLE], membership [.IN, .GROUP], membership [.ROLE], membership [.USER],
     membership [.ADMIN]]
  return .createOther "ROLE" []
where
  /-- The roles that it belongs to, or that belong to it. -/
  membership (ks : List Keyword) : Phrase (Option Unit) :=
    presence do
      if ← hasAll ks then
        idents
        return true
      else return false

/-- The value of a setting, after its name. -/
def settingValue : Phrase (List Expr) := do
  if ← hasAll [.FROM, .CURRENT] then return []
  if ← hasMark .equal then pure () else expect .TO
  if ← has .DEFAULT then return [] else return [← expression]

/-- A change to a role. -/
def roleChange : Phrase (List Expr) := do
  let _ ← ident
  if ← hasAll [.IN, .DATABASE] then unkept nameAtAll
  if ← has .RENAME then
    expect .TO
    let _ ← ident
    return []
  else if ← has .SET then
    let _ ← name
    settingValue
  else if ← has .RESET then
    if ← has .ALL then pure () else unkept name
    return []
  else
    skipAny [.WITH]
    if (← many option?).isEmpty then .miss else return []
where
  /-- A right or a property, any number of times. -/
  option? : Phrase Unit := do
    if (← firstUnused [] 0 roleOptions).isSome then return () else .miss

/-! ### Users -/

/-- A new user. A semicolon that ends its options is taken along. -/
def newUser : Phrase Statement := do
  let _ ← ifNotExists
  let _ ← ident
  valuedOptions false [.WITH, .TAG]
  skipAny [.WITH]
  if ← has .TAG then valuedOptions true []
  return .createOther "USER" []

/-- A second factor. -/
def factor : Phrase Unit := unkept (anyOf [.PASSKEY, .TOTP, .DUO])

/-- What a policy is about. -/
def policyKinds : List Keyword := [.AUTHENTICATION, .PASSWORD, .SESSION]

/-- The kind of policy after the keyword; whether there is one. -/
def policyAfter (k : Keyword) : Phrase Bool :=
  hasOneOf (policyKinds.map fun kind => [k, kind, .POLICY])

/-- A role whose use is handed on or taken back. -/
def delegation : Phrase Unit := do
  asideAll [.ADD, .DELEGATED, .AUTHORIZATION, .OF, .ROLE] do
    let _ ← ident
    expectAll [.TO, .SECURITY, .INTEGRATION]
    ident
  asideAll [.REMOVE, .DELEGATED] do
    if ← hasAll [.AUTHORIZATION, .OF, .ROLE] then unkept ident else expect .AUTHORIZATIONS
    expectAll [.FROM, .SECURITY, .INTEGRATION]
    ident

/-- The second factors of a user. -/
def factors : Phrase Unit := do
  skipAll [.ENROLL, .MFA]
  asideAll [.SET, .DEFAULT_MFA_METHOD] factor
  asideAll [.REMOVE, .MFA, .METHOD] factor
  asideAll [.MODIFY, .MFA, .METHOD] do
    factor
    expectAll [.SET, .COMMENT]
    literalText
  asideAll [.ADD, .MFA, .METHOD, .OTP] <| aside .COUNT do
    mark .equal
    constant

/-- A change to a user: clauses in this order, all of which may be missing. -/
def userChange : Phrase Unit := do
  ifExists
  let _ ← ident
  asideAll [.RENAME, .TO] ident
  skipAll [.RESET, .PASSWORD]
  skipAll [.ABORT, .ALL, .QUERIES]
  delegation
  factors
  if ← policyAfter .SET then unkept ident
  let _ ← policyAfter .UNSET
  asideAll [.SET, .TAG] (valuedOptions false [])
  asideAll [.UNSET, .TAG] idents
  aside .SET (valuedOptions false [])
  aside .UNSET idents

end QueryGateway.Sql.Grammar
