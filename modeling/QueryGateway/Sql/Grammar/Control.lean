import QueryGateway.Sql.Grammar.Query

/-! Statements that hold other statements: branches, loops and blocks. Of each the
expressions are kept, in the order in which they stand. -/
namespace QueryGateway.Sql.Grammar

open Phrase Ast

/-! ### Blocks -/

/-- Whether a row of statements ends here: at one of the words, or with the text. -/
def endsStatements (ends : List Keyword) (ls : List Lexeme) : Bool :=
  ls.isEmpty || spellsAny ends ls

/-- Statements with a semicolon behind each, up to one of the words or the end of the
text. -/
def statements (ends : List Keyword) : Phrase (List Expr) := do
  let found ← series do
    if ← ahead (endsStatements ends) then return none
    let s ← statement
    mark .semicolon
    return some s.parts
  return found.flatten

/-- Statements that `BEGIN` and `END` may enclose. -/
def block (ends : List Keyword) : Phrase (List Expr) := do
  if ← has .BEGIN then
    let content ← statements ends
    expect .END
    return content
  else statements ends

/-! ### Branches -/

/-- A condition and what is done where it holds. -/
def branch (ends : List Keyword) : Phrase (List Expr) := do
  let condition ← expression
  expect .THEN
  return condition :: (← block ends)

/-- What is done where no condition holds, or nothing. -/
def otherwise : Phrase (List Expr) := after .ELSE (block [.END])

/-- A choice by conditions, after its first word. -/
def conditional : Phrase (List Expr) := do
  let first ← branch [.ELSE, .ELSEIF, .END]
  let more ← series do
    if ← has .ELSEIF then return some (← branch [.ELSEIF, .ELSE, .END]) else return none
  let last ← otherwise
  expectAll [.END, .IF]
  return first ++ more.flatten ++ last

/-- A choice by cases, after its first word. -/
def caseBlock : Phrase (List Expr) := do
  let subject ← if ← ahead (spells .WHEN) then pure [] else pure [← expression]
  expect .WHEN
  let branches ← separated (has .WHEN) (branch [.WHEN, .ELSE, .END])
  let last ← otherwise
  expect .END
  skipAny [.CASE]
  return subject ++ branches.flatten ++ last

/-- A loop, after its first word. The word that ends it is left. -/
def whileLoop : Phrase (List Expr) := do
  let condition ← expression
  return condition :: (← block [.END])

/-- An error raised, after its first word. -/
def raised : Phrase (List Expr) := do
  if ← hasAll [.USING, .MESSAGE] then
    mark .equal
    return [← expression]
  else return (← attempt expression).toList

end QueryGateway.Sql.Grammar
