import QueryGateway.Sql.Ast
import QueryGateway.Sql.Token

/-! Grammars as data.

A `Phrase α` describes how to read an `α` from the front of a row of lexemes; it is built
from a few constructors and refers to other rules of the grammar only by name (`call`).
So no phrase is recursive, and what holds of reading is proved once, by induction over
phrases, for every grammar.

Reading either succeeds, or mismatches, from which an `attempt` recovers, or is refused: a
statement that nests too deep is refused, and only a `fallback` can make good for it.

Some words read differently in the options of a column, so reading knows its place. -/
namespace QueryGateway.Sql

/-- The rules that refer to each other. An expression or a query body is read up to the
first operator that binds no tighter than a given strength. -/
inductive Rule where
  | statement
  | query
  | body (above : Nat)
  | expression (above : Nat)
  | operand
  | table
  | dataType
  | column
  | options
  | jsonColumn

/-- What a rule reads. -/
def Rule.Reading : Rule → Type
  | .statement => Ast.Statement
  | .query => Ast.Query
  | .body _ => Ast.Body
  | .expression _ => Ast.Expr
  | .operand => Ast.Expr
  | .table => Ast.Factor
  | .dataType => Ast.TypeName
  | .column => List Ast.Expr
  | .options => Unit
  | .jsonColumn => List Ast.Expr

/-- The rules whose uses count as levels of nesting. -/
def Rule.nests : Rule → Bool
  | .statement | .query | .expression _ => true
  | _ => false

/-- Where an expression stands: in the options of a column, `NOT NULL` and `COLLATE` after
it belong to the column. -/
inductive Place where
  | free | column
  deriving DecidableEq, Repr

/-- The result of reading. -/
inductive Outcome (α : Type) where
  | done (value : α) (rest : List Lexeme)
  | mismatch
  | refused

/-- How to read an `α`. -/
inductive Phrase : Type → Type 1 where
  /-- Reads nothing. -/
  | give {α} (value : α) : Phrase α
  /-- Matches nothing. -/
  | miss {α} : Phrase α
  /-- The next lexeme, if `f` accepts it. -/
  | one {α} (f : Lexeme → Option α) : Phrase α
  /-- A `p`, and then what depends on it. -/
  | andThen {α β} (p : Phrase α) (f : α → Phrase β) : Phrase β
  /-- Looks at what follows without taking it. -/
  | ahead {α} (f : List Lexeme → α) : Phrase α
  /-- A `p`, or nothing if it mismatches. -/
  | attempt {α} (p : Phrase α) : Phrase (Option α)
  /-- A `p`, or where that fails in any way a `q`. If both fail, the `p` has failed. -/
  | fallback {α} (p q : Phrase α) : Phrase α
  /-- Repeats `step` until it answers nothing. -/
  | loop {σ} (start : σ) (step : σ → Phrase (Option σ)) : Phrase σ
  /-- Another rule of the grammar. -/
  | call (r : Rule) : Phrase r.Reading
  /-- Where reading takes place. -/
  | here : Phrase Place
  /-- A `p` in another place. -/
  | within {α} (place : Place) (p : Phrase α) : Phrase α

namespace Phrase

instance : Monad Phrase where
  pure := .give
  bind := .andThen

/-- Repeats a reader until it answers nothing, once for each lexeme of `clock` and once
more. -/
def loopFrom {σ} (step : σ → List Lexeme → Outcome (Option σ)) :
    List Lexeme → σ → List Lexeme → Outcome σ
  | clock, s, ls =>
    match step s ls with
    | .done none rest => .done s rest
    | .done (some s') rest =>
      match clock with
      | [] => .mismatch
      | _ :: clock => loopFrom step clock s' rest
    | .mismatch => .mismatch
    | .refused => .refused

/-- Reads a phrase in a place, given how to read the rules it calls. A loop turns at most
once per lexeme and once more to stop. -/
def read (calls : (r : Rule) → Place → List Lexeme → Outcome r.Reading) {α} :
    Phrase α → Place → List Lexeme → Outcome α
  | .give a, _, ls => .done a ls
  | .miss, _, _ => .mismatch
  | .one f, _, ls =>
    match ls with
    | [] => .mismatch
    | l :: rest =>
      match f l with
      | some a => .done a rest
      | none => .mismatch
  | .andThen phrase f, place, ls =>
    match phrase.read calls place ls with
    | .done a rest => (f a).read calls place rest
    | .mismatch => .mismatch
    | .refused => .refused
  | .ahead f, _, ls => .done (f ls) ls
  | .attempt phrase, place, ls =>
    match phrase.read calls place ls with
    | .done a rest => .done (some a) rest
    | .mismatch => .done none ls
    | .refused => .refused
  | .fallback first second, place, ls =>
    match first.read calls place ls with
    | .done a rest => .done a rest
    | failed =>
      match second.read calls place ls with
      | .done a rest => .done a rest
      | _ => failed
  | .loop start step, place, ls => loopFrom (fun s => (step s).read calls place) ls start ls
  | .call r, place, ls => calls r place ls
  | .here, place, ls => .done place ls
  | .within there phrase, _, ls => phrase.read calls there ls

end Phrase

/-- Reads a rule of a grammar. `levels` is how many nesting rules may still be open at
once, `fuel` how many rules of any kind. -/
def Rule.read (grammar : (r : Rule) → Phrase r.Reading) :
    Nat → Nat → (r : Rule) → Place → List Lexeme → Outcome r.Reading
  | 0, _, _, _, _ => .refused
  | fuel + 1, levels, r, place, ls =>
    if r.nests then
      match levels with
      | 0 => .refused
      | levels + 1 => (grammar r).read (Rule.read grammar fuel levels) place ls
    else (grammar r).read (Rule.read grammar fuel levels) place ls

end QueryGateway.Sql
