import QueryGateway.Sql.Grammar.Column
import QueryGateway.Sql.Grammar.Control

/-! The statements that make functions, procedures and triggers. -/
namespace QueryGateway.Sql.Grammar

open Phrase Ast

/-! ### Functions -/

/-- One parameter of a function: its type, possibly behind its name, and its value where none
is given. What reads as a type may turn out to be the name; then its last word is the
name. -/
def parameter : Phrase (List Expr) := do
  skipAny [.IN, .OUT, .INOUT]
  let (first, words) ← taken dataType
  let second ← attempt (do if ← ahead (spells .DEFAULT) then .miss else dataType)
  let parts ←
    match second with
    | none => pure first.parts
    | some t => if startsWord (words.drop (words.length - 1)) then pure t.parts else .miss
  let valued ← if ← has .DEFAULT then pure true else hasMark .equal
  if valued then return parts ++ [← expression] else return parts

/-- The parameters of a function. -/
def parameters : Phrase (List Expr) := do return (← parenListOrNone parameter).flatten

/-- A function, with its parameters if they are told. -/
def signature : Phrase (List Expr) := do
  let _ ← name
  if ← ahead (opens .round) then parameters else return []

/-- The text of a function's body. -/
def bodyText : Phrase Unit := do
  let quoted ← attempt (token fun
    | .string .dollar _ => some ()
    | _ => none)
  if quoted.isNone then literalText

/-- What a function does: a text for the language it is written in, or a value. -/
def functionBody : Phrase (Option (List Expr)) := do
  if ← has .AS then
    bodyText
    if ← hasMark .comma then bodyText
    return some []
  else if ← has .RETURN then return some [← expression]
  else return none

/-- The clauses of a function, as alternatives. -/
def functionClauses : List (Phrase (Option (List Expr))) :=
  [functionBody,
   telling (do if ← has .LANGUAGE then unkept ident; return true else return false),
   telling (do return (← hasAny [.IMMUTABLE, .STABLE, .VOLATILE]).isSome),
   telling (hasOneOf [[.CALLED, .ON, .NULL, .INPUT], [.RETURNS, .NULL, .ON, .NULL, .INPUT],
     [.STRICT]]),
   telling (do
     if ← has .PARALLEL then
       let _ ← anyOf [.UNSAFE, .RESTRICTED, .SAFE]
       return true
     else return false)]
where
  /-- A clause in which nothing is of interest. -/
  telling (p : Phrase Bool) : Phrase (Option (List Expr)) := do
    if ← p then return some [] else return none

/-- A new function. Each of its clauses is told once. -/
def newFunction : Phrase Statement := do
  let _ ← name
  let given ← parameters
  let returned ← after .RETURNS typeParts
  let clauses ← eachOnce functionClauses
  return .createOther "FUNCTION" (given ++ returned ++ clauses.flatten)

/-! ### Procedures -/

/-- One parameter of a procedure. -/
def procedureParameter : Phrase (List Expr) := do
  skipAny [.IN, .OUT, .INOUT]
  let _ ← ident
  let parts ← typeParts
  if ← hasMark .equal then return parts ++ [← expression] else return parts

/-- The parameters of a procedure, or nothing. A comma may stand where a parameter is
missing. -/
def procedureParameters : Phrase (List Expr) := do
  if (← attempt (opening .round)).isNone then return []
  if ← hasClosing .round then return []
  let found ← loop (([] : List Expr), false) fun (found, closed) => do
    if closed then return none
    let parts ← if ← ahead startsWord then procedureParameter else pure []
    let more ← hasMark .comma
    if ← hasClosing .round then return some (found ++ parts, true)
    else if more then return some (found ++ parts, false)
    else .miss
  return found.1

/-- The object word of a routine that may change another one of its name. -/
def routineWord (changes : Bool) (object : String) : String := if changes then "ALTER" else object

/-- A new procedure. -/
def newProcedure (changes : Bool) : Phrase Statement := do
  let _ ← name
  let given ← procedureParameters
  aside .LANGUAGE ident
  expect .AS
  return .createOther (routineWord changes "PROCEDURE") (given ++ (← block [.END]))

/-! ### Triggers -/

/-- When a trigger acts. -/
def triggerTime : Phrase Unit := do
  match ← anyOf [.FOR, .BEFORE, .AFTER, .INSTEAD] with
  | .INSTEAD => expect .OF
  | _ => pure ()

/-- What sets a trigger off. -/
def triggerEvent : Phrase Unit := do
  match ← anyOf [.INSERT, .UPDATE, .DELETE, .TRUNCATE] with
  | .UPDATE => aside .OF idents
  | _ => pure ()

/-- A name for the rows before a change or after it. A word that none follows ends the
list. -/
def transition : Phrase (Option Unit) := do
  if (← hasAny [.OLD, .NEW]).isNone then return none
  else if ← has .TABLE then
    skipAny [.AS]
    let _ ← name
    return some ()
  else return none

/-- A new trigger. What it does is a call, or statements that `BEGIN` and `END` may
enclose. -/
def newTrigger (object : String) : Phrase Statement := do
  let _ ← name
  let _ ← attempt triggerTime
  let _ ← separated (has .OR) triggerEvent
  expect .ON
  let _ ← name
  aside .FROM nameAtAll
  checkTime
  aside .REFERENCING (series transition)
  if ← has .FOR then
    skipAny [.EACH]
    let _ ← anyOf [.ROW, .STATEMENT]
  let condition ← after .WHEN (do return [← expression])
  if ← has .EXECUTE then
    let _ ← anyOf [.FUNCTION, .PROCEDURE]
    return .createOther object (condition ++ (← signature))
  else return .createOther object (condition ++ (← block [.END]))

end QueryGateway.Sql.Grammar
