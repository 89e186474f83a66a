import QueryGateway.Sql.Grammar.Object
import QueryGateway.Sql.Grammar.Operator
import QueryGateway.Sql.Grammar.Role
import QueryGateway.Sql.Grammar.Routine

/-! What `CREATE` makes. -/
namespace QueryGateway.Sql.Grammar

open Phrase Ast

/-- A new operator, or a family or a class of them. -/
def operatorDefinition : Phrase Statement := do
  if ← has .FAMILY then newOperatorFamily
  else if ← has .CLASS then newOperatorClass
  else newOperator

/-- The objects that can replace another one of their name. -/
def replaceable (prelude : Prelude) : Phrase (Option Statement) := do
  if ← has .TABLE then return some (← newTable prelude)
  else if ← ahead startsView then return some (← newView prelude)
  else if ← has .EXTERNAL then return some (← newExternalTable prelude)
  else
    match ← hasAny [.POLICY, .FUNCTION, .DOMAIN, .TRIGGER, .SECRET, .USER] with
    | some .POLICY => return some (← newPolicy)
    | some .FUNCTION => return some (← newFunction)
    | some .DOMAIN => return some (← newDomain)
    | some .TRIGGER => return some (← newTrigger (routineWord prelude.alters "TRIGGER"))
    | some .SECRET => return some (← newSecret)
    | some _ => return some (← newUser)
    | none =>
      if ← hasAll [.CONSTRAINT, .TRIGGER] then
        return some (← newTrigger (routineWord prelude.alters "CONSTRAINT"))
      else return none

/-- The objects that replace no other. -/
def irreplaceable (prelude : Prelude) : Phrase Statement := do
  if ← hasAll [.UNIQUE, .INDEX] then newIndex
  else if ← hasAll [.VIRTUAL, .TABLE] then newVirtualTable
  else
    match ← anyOf
      [.EXTENSION, .INDEX, .SCHEMA, .DATABASE, .ROLE, .SEQUENCE, .TYPE, .PROCEDURE, .CONNECTOR,
       .OPERATOR, .SERVER] with
    | .EXTENSION => newExtension
    | .INDEX => newIndex
    | .SCHEMA => newSchema
    | .DATABASE => newDatabase
    | .ROLE => newRole
    | .SEQUENCE => newSequence
    | .TYPE => newType
    | .PROCEDURE => newProcedure prelude.alters
    | .CONNECTOR => newConnector
    | .OPERATOR => operatorDefinition
    | _ => newServer

/-- A new object, after `CREATE`. -/
def creation : Phrase Statement := do
  let prelude ← creationPrelude
  match ← replaceable prelude with
  | some s => return s
  | none => if prelude.replaces then .miss else irreplaceable prelude

end QueryGateway.Sql.Grammar
