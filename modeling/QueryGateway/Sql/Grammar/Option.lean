import QueryGateway.Sql.Grammar.Change

/-! Options with a name and a value, and the small clauses that definitions of all kinds
share. -/
namespace QueryGateway.Sql.Grammar

open Phrase Ast

/-! ### Presence -/

/-- `IF NOT EXISTS`, if it stands here. -/
def ifNotExists : Phrase Bool := hasAll [.IF, .NOT, .EXISTS]

/-- `IF EXISTS`, or nothing. -/
def ifExists : Phrase Unit := skipAll [.IF, .EXISTS]

/-- What becomes of the objects that hang on one that goes, or nothing. -/
def dropBehavior : Phrase Unit := skipAny [.CASCADE, .RESTRICT]

/-- The cluster that a table is kept on; whether there is one. -/
def onCluster : Phrase Bool := do
  if ← hasAll [.ON, .CLUSTER] then
    let _ ← ident
    return true
  else return false

/-! ### Options with expressions -/

/-- An option's name and its value. -/
def option : Phrase Expr := do
  let _ ← ident
  mark .equal
  expression

/-- Options in brackets, possibly none. -/
def options : Phrase (List Expr) := parenListOrNone option

/-- Options after `WITH`, or nothing. -/
def withOptions : Phrase (List Expr) := after .WITH options

/-- Options after words that need at least one, or nothing if the words do not come
next. -/
def optionsAfter (ks : List Keyword) : Phrase (List Expr) := afterAll ks (parenList option)

/-! ### Options with constants -/

/-- The value of an option: a word, a constant, constants in brackets, or options in
brackets. -/
def optionValue : Phrase Unit := do
  if ← ahead (opens .round) then
    if (← attempt (parenListOrNone constant)).isNone then call .options
  else token fun
    | .word _ | .number .. | .string .plain _ => some ()
    | _ => none

/-- Options that need no commas between them, up to a word of `ends`, the end of the
statement or, in brackets, their end. A semicolon that ends them is taken along. -/
def valuedOptions (bracketed : Bool) (ends : List Keyword) : Phrase Unit := do
  if bracketed then opening .round
  loop () fun _ => do
    if ← ahead (fun ls => ls.isEmpty || spellsAny ends ls) then return none
    if ← hasMark .semicolon then return none
    if ← hasMark .comma then return some ()
    if bracketed then
      if ← hasClosing .round then return none
    let _ ← word
    mark .equal
    optionValue
    return some ()

end QueryGateway.Sql.Grammar
