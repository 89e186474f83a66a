import QueryGateway.Sql.Grammar.Operator
import QueryGateway.Sql.Grammar.Routine

/-! What `DROP` removes. -/
namespace QueryGateway.Sql.Grammar

open Phrase Ast

/-- Objects of a kind that are known by their names alone. -/
def namedRemoval (object : String) : Phrase Statement := do
  ifExists
  let _ ← names
  let cascade ← has .CASCADE
  let restrict ← has .RESTRICT
  let purge ← has .PURGE
  if cascade && restrict then .miss
  else if object == "ROLE" && (cascade || restrict || purge) then .miss
  else
    aside .ON name
    return .drop object []

/-- An object of another kind. -/
def singleRemoval (object : String) (p : Phrase Unit) : Phrase Statement := do
  ifExists
  p
  return .drop object []

/-- Objects of another kind, told apart by types. -/
def typedRemoval (object : String) (p : Phrase (List Expr)) : Phrase Statement := do
  ifExists
  let parts ← list p
  dropBehavior
  return .drop object parts.flatten

/-- Operators, or families or classes of them. -/
def operatorRemoval : Phrase Statement := do
  if (← hasAny [.FAMILY, .CLASS]).isSome then
    singleRemoval "OPERATOR" do
      let _ ← names
      expect .USING
      let _ ← ident
      dropBehavior
  else
    typedRemoval "OPERATOR" do
      operatorName
      operandsIfAny

/-- What `DROP` removes. -/
def removal : Phrase Statement := do
  if ← hasAll [.MATERIALIZED, .VIEW] then namedRemoval "MATERIALIZED VIEW"
  else
    match ← anyOf
      [.TABLE, .VIEW, .INDEX, .ROLE, .SCHEMA, .DATABASE, .SEQUENCE, .STAGE, .TYPE, .USER, .STREAM,
       .FUNCTION, .PROCEDURE, .POLICY, .CONNECTOR, .DOMAIN, .SECRET, .TRIGGER, .EXTENSION,
       .OPERATOR] with
    | .TABLE => namedRemoval "TABLE"
    | .VIEW => namedRemoval "VIEW"
    | .INDEX => namedRemoval "INDEX"
    | .ROLE => namedRemoval "ROLE"
    | .SCHEMA => namedRemoval "SCHEMA"
    | .DATABASE => namedRemoval "DATABASE"
    | .SEQUENCE => namedRemoval "SEQUENCE"
    | .STAGE => namedRemoval "STAGE"
    | .TYPE => namedRemoval "TYPE"
    | .USER => namedRemoval "USER"
    | .STREAM => namedRemoval "STREAM"
    | .FUNCTION => typedRemoval "FUNCTION" signature
    | .PROCEDURE => typedRemoval "PROCEDURE" signature
    | .POLICY =>
      singleRemoval "POLICY" do
        let _ ← ident
        expect .ON
        let _ ← name
        dropBehavior
    | .CONNECTOR => singleRemoval "CONNECTOR" (unkept ident)
    | .DOMAIN => singleRemoval "DOMAIN" (do let _ ← name; dropBehavior)
    | .SECRET => singleRemoval "SECRET" (do let _ ← ident; aside .FROM skip)
    | .TRIGGER => singleRemoval "TRIGGER" (do let _ ← name; aside .ON name; dropBehavior)
    | .EXTENSION => singleRemoval "EXTENSION" (do idents; dropBehavior)
    | _ => operatorRemoval

end QueryGateway.Sql.Grammar
