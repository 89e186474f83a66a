import QueryGateway.Sql.Grammar.Alteration
import QueryGateway.Sql.Grammar.Command
import QueryGateway.Sql.Grammar.Removal
import QueryGateway.Sql.Lexer

/-! The whole grammar, and the reading of a text.

`Sql.read` cuts a text into lexemes and reads the statements in it. A statement may nest
fifty levels deep. After a statement comes a semicolon, the end of the text, or the word
`END`, behind which nothing is looked at. -/
namespace QueryGateway.Sql

namespace Grammar

open Phrase Ast

/-- A statement, by its first word. -/
def statementRule : Phrase Statement := do
  match ← ahead next? with
  | some (.opening .round) => return .query (← query)
  | some (.word w) =>
    match w.keyword with
    | some .SELECT | some .WITH | some .VALUES => return .query (← query)
    | some .INSERT => do
      anything
      match ← insertion with
      | .inl i => return .insert i
      | .inr q => return .other "INSERT" [.query q]
    | some .UPDATE => do anything; return .update (← updating)
    | some .DELETE => do anything; return .delete (← deletion)
    | some .CREATE => do anything; creation
    | some .DROP => do anything; removal
    | some .ALTER => do anything; alteration
    | _ =>
      match command w with
      | some rest => do anything; rest
      | none => .miss
  | _ => .miss

/-- The phrase of each rule. -/
def phraseOf : (r : Rule) → Phrase r.Reading
  | .statement => statementRule
  | .query => wholeQuery insertionBody updating (do let _ ← deletion; return []) merging
  | .body above => bodyAbove above
  | .expression above => expressionAbove above
  | .operand => wholeOperand
  | .table => tableItem
  | .dataType => wholeDataType
  | .column => columnDefinition
  | .options => valuedOptions true []
  | .jsonColumn => jsonTableColumn

/-- How many levels a statement may nest. -/
def nestingLimit : Nat := 50

end Grammar

/-- Reads one statement from the front of a row of lexemes. Between two levels of nesting
only brackets and a bounded number of rules are open, so the fuel never runs out first. -/
def readStatement (size : Nat) (ls : List Lexeme) : Outcome Ast.Statement :=
  Rule.read Grammar.phraseOf (size + 8 * Grammar.nestingLimit) Grammar.nestingLimit .statement
    .free ls

/-- The statements of a row of lexemes. `due` says that a statement has just ended, so that
a semicolon must come before the next one. -/
def readStatements (size : Nat) : Nat → Bool → List Lexeme → Option (List Ast.Statement)
  | 0, _, _ => none
  | fuel + 1, due, ls =>
    match ls with
    | [] => some []
    | ⟨.symbol .semicolon, _⟩ :: rest => readStatements size fuel false rest
    | _ =>
      if due then if Grammar.spells .END ls then some [] else none
      else
        match readStatement size ls with
        | .done s rest => (readStatements size fuel true rest).map (s :: ·)
        | .mismatch => none
        | .refused => none

/-- The statements of a text, unless it is no SQL. -/
def read (text : List Char) : Option (List Ast.Statement) := do
  let ls ← lex text
  readStatements ls.length (ls.length + 1) false ls

end QueryGateway.Sql
