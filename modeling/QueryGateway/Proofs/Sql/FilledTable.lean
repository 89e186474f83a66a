import QueryGateway.Proofs.Sql.NewTable
import QueryGateway.Proofs.Sql.Visibility

/-! Tables that are made from the rows of another one.

The query that gives the rows is kept, whichever way it is said: `AS TABLE` takes a name of two
parts at most and keeps it as a text, `AS SELECT` takes a name that no keyword begins
(`query_filled`). Both name the other table (`draws_query`). -/
namespace QueryGateway.Sql

open Phrase Grammar Ast

/-- The ways to make a table from the rows of another one. -/
inductive Filling where
  | rows | selection

/-- A name as it stands for all rows of a table, without quotes. -/
def wholeName : List Word → String
  | [] => ""
  | w :: n => n.foldl (fun text w => text ++ "." ++ w.text) w.text

namespace Filling

/-- What is said behind `AS`. -/
def source (u : List Word) : Filling → List Piece
  | rows => .keyword .TABLE :: namePieces u
  | selection => .keyword .SELECT :: .token (.symbol .star) :: .keyword .FROM :: namePieces u

/-- What is said behind the name of the new table. -/
def pieces (u : List Word) (f : Filling) : List Piece := .keyword .AS :: f.source u

/-- Which names the grammar takes there: of two parts at most, or not begun by a keyword. -/
def Takes (u : List Word) : Filling → Prop
  | rows => u.length ≤ 2
  | selection => ∀ w, u.head? = some w → w.keyword = none

/-- The selection of everything from a table. -/
def everything (u : List Word) : Select := ⟨[], none, [⟨.table (u.map Word.ident) [], []⟩], []⟩

/-- The body of the query that gives the rows. -/
def body (u : List Word) : Filling → Ast.Body
  | rows => .table (wholeName u)
  | selection => .select (everything u)

/-- The query that gives the rows. -/
def query (u : List Word) (f : Filling) : Ast.Query := ⟨[], false, f.body u, []⟩

end Filling

/-! ### The name of the other table -/

theorem stripQuotes_render (w : Word) :
    stripQuotes w.ident.render = stripQuotes w.text.toList := by
  obtain ⟨text, quoted, keyword⟩ := w
  cases quoted with
  | false => rfl
  | true =>
    have render : (Word.ident ⟨text, true, keyword⟩).render =
        '"' :: (escapeQuote '"' '\x00' text.toList ++ ['"']) := rfl
    rw [render, stripQuotes_quote, stripQuotes_append, stripQuotes_escapeQuote]
    exact List.append_nil _

/-- Quotes make no difference to the relation that a name refers to. -/
theorem relationName_wholeName {u : List Word} (named : u ≠ []) (short : u.length ≤ 2) :
    relationName (wholeName u) = relationOf u := by
  obtain ⟨v, n, rfl⟩ := List.exists_cons_of_ne_nil named
  cases n with
  | nil =>
    show String.ofList (stripQuotes v.text.toList) = String.ofList (stripQuotes v.ident.render)
    rw [stripQuotes_render]
  | cons w n =>
    obtain rfl : n = [] := by
      simp only [List.length_cons] at short
      exact List.length_eq_zero_iff.mp (by omega)
    show String.ofList (stripQuotes (v.text ++ "." ++ w.text).toList) =
      String.ofList (stripQuotes (v.ident.render ++ '.' :: w.ident.render))
    simp only [String.toList_append, stripQuotes_append, stripQuotes_render v,
      stripQuotes_cons '.' (stripQuotes_render w)]
    simp [stripQuotes]

theorem draws_query (f : Filling) {u : List Word} (named : u ≠ []) (takes : f.Takes u) :
    Draws (relationOf u) (f.query u) := by
  refine .here ?_ fun ⟨_, _, member, _⟩ => nomatch member
  cases f with
  | rows =>
    show Entry.name .read (relationOf u) ∈ [.name .read (relationName (wholeName u))]
    rw [relationName_wholeName named takes]
    exact List.mem_singleton.mpr rfl
  | selection => exact List.mem_singleton.mpr rfl

/-! ### Its rows -/

section Reading

variable {calls : Reader} {us : List Lexeme} {u : List Word} (named : u ≠ [])

theorem bodyAbove_of_operand {ls : List Lexeme} {b : Ast.Body}
    (operand : bodyOperand.read calls .free ls = .done b []) :
    (bodyAbove 0).read calls .free ls = .done b [] :=
  read_bind_of_done operand rfl

section Names

variable (source : Worded us (namePieces u))
include named source

theorem read_wholeTable (short : u.length ≤ 2) :
    wholeTable.read calls .free us = .done (wholeName u) [] := by
  obtain ⟨v, n, rfl⟩ := List.exists_cons_of_ne_nil named
  obtain ⟨_, _, rfl, further⟩ := source.token
  cases n with
  | nil =>
    obtain rfl := further.nothing
    rfl
  | cons w n =>
    obtain rfl : n = [] := by
      simp only [List.length_cons] at short
      exact List.length_eq_zero_iff.mp (by omega)
    obtain ⟨_, _, rfl, behind⟩ := further.token
    obtain ⟨_, _, rfl, nothing⟩ := behind.token
    obtain rfl := nothing.nothing
    rfl

theorem read_tableItem (plain : ∀ w, u.head? = some w → w.keyword = none) :
    tableItem.read calls .free us = .done (.table (u.map Word.ident) []) [] := by
  have item : namedTable.read calls .free us = .done (.table (u.map Word.ident) []) [] :=
    read_bind_of_done (read_name_alone named source) rfl
  obtain ⟨⟨text, quoted, keyword⟩, u, rfl⟩ := List.exists_cons_of_ne_nil named
  obtain rfl : keyword = none := plain _ rfl
  obtain ⟨_, ls, rfl, further⟩ := source.token
  -- Nothing but a name begins with such a word.
  refine read_bind_of_done (a := false) rfl (read_bind_of_done (a := false) rfl ?_)
  refine read_bind_of_done (a := false) rfl (read_bind_of_done (a := false) rfl ?_)
  refine read_bind_of_done (a := none) ?_ item
  cases u with
  | nil =>
    obtain rfl := further.nothing
    rfl
  | cons w u =>
    obtain ⟨_, _, rfl, _⟩ := further.token
    rfl

theorem read_rows (short : u.length ≤ 2) (text : String) (quoted apart : Bool) :
    (bodyAbove 0).read calls .free (⟨.word ⟨text, quoted, some .TABLE⟩, apart⟩ :: us) =
      .done (.table (wholeName u)) [] := by
  refine bodyAbove_of_operand ?_
  refine read_bind_of_done (a := false) rfl (read_bind_of_done (a := false) rfl ?_)
  refine read_bind_of_done (a := none) rfl (read_bind_of_done (a := ()) rfl ?_)
  exact read_bind_of_done (read_wholeTable named source short) rfl

end Names

theorem read_everything (item : calls .table .free us = .done (.table (u.map Word.ident) []) [])
    (text text' : String) (quoted quoted' apart apart' apart'' : Bool) :
    (bodyAbove 0).read calls .free
      (⟨.word ⟨text, quoted, some .SELECT⟩, apart⟩ :: ⟨.symbol .star, apart'⟩ ::
        ⟨.word ⟨text', quoted', some .FROM⟩, apart''⟩ :: us) =
      .done (.select (Filling.everything u)) [] := by
  have first : joined.read calls .free us = .done ⟨.table (u.map Word.ident) [], []⟩ [] :=
    read_bind_of_done item rfl
  have all : tables.read calls .free us = .done [⟨.table (u.map Word.ident) [], []⟩] [] :=
    read_bind_of_done first rfl
  refine bodyAbove_of_operand (read_bind_of_done (a := true) rfl ?_)
  suffices selected : select.read calls .free _ = .done (Filling.everything u) [] from
    read_bind_of_done selected rfl
  refine read_bind_of_done (a := ()) rfl ?_
  refine read_bind_of_done (a := []) rfl (read_bind_of_done (a := []) rfl ?_)
  refine read_bind_of_done (a := false) rfl (read_bind_of_done (a := []) rfl ?_)
  refine read_bind_of_done (a := false) rfl (read_bind_of_done (a := none) rfl ?_)
  exact read_bind_of_done (read_bind_of_done (a := true) rfl all) rfl

/-- A query that is its body alone. -/
theorem read_queryOf {k : Keyword} (starts : k = .SELECT ∨ k = .TABLE) {text : String}
    {quoted apart : Bool} {ls : List Lexeme} {b : Ast.Body}
    (body : calls (.body 0) .free (⟨.word ⟨text, quoted, some k⟩, apart⟩ :: ls) = .done b []) :
    (phraseOf .query).read calls .free (⟨.word ⟨text, quoted, some k⟩, apart⟩ :: ls) =
      .done ⟨[], false, b, []⟩ [] := by
  rcases starts with rfl | rfl
  all_goals
    refine read_bind_of_done (a := ([], false)) rfl ?_
    refine read_bind_of_done (a := false) rfl (read_bind_of_done (a := false) rfl ?_)
    refine read_bind_of_done (a := false) rfl (read_bind_of_done (a := false) rfl ?_)
    exact read_bind_of_done body rfl

theorem read_rule (fuel levels : Nat) (r : Rule) (place : Place) (ls : List Lexeme) :
    Rule.read phraseOf (fuel + 1) (levels + 1) r place ls =
      (phraseOf r).read (Rule.read phraseOf fuel (if r.nests then levels else levels + 1)) place
        ls := by
  rw [Rule.read]
  cases r.nests <;> rfl

include named

theorem query_filled {f : Filling} (takes : f.Takes u) (worded : Worded us (f.source u))
    (fuel levels : Nat) :
    Rule.read phraseOf (fuel + 3) (levels + 2) .query .free us = .done (f.query u) [] := by
  rw [read_rule]
  cases f with
  | rows =>
    obtain ⟨_, _, _, _, rfl, source⟩ := worded.keyword
    refine read_queryOf (.inr rfl) ?_
    show Rule.read phraseOf (fuel + 1 + 1) (levels + 1) (.body 0) .free _ = _
    rw [read_rule]
    exact read_rows named source takes ..
  | selection =>
    obtain ⟨_, _, _, _, rfl, star⟩ := worded.keyword
    obtain ⟨_, _, rfl, behind⟩ := star.token
    obtain ⟨_, _, _, _, rfl, source⟩ := behind.keyword
    refine read_queryOf (.inl rfl) ?_
    show Rule.read phraseOf (fuel + 1 + 1) (levels + 1) (.body 0) .free _ = _
    rw [read_rule]
    refine read_everything ?_ ..
    show Rule.read phraseOf (fuel + 1) (levels + 1) .table .free _ = _
    rw [read_rule]
    exact read_tableItem named source takes

end Reading

/-! ### The new table -/

theorem newTable_filled {calls : Reader} {o : Opening} {gs ts us : List Lexeme} {t : List Word}
    {q : Ast.Query} (named : t ≠ []) (guard : Worded gs o.guard)
    (name : Worded ts (namePieces t)) {text : String} {quoted apart : Bool}
    (query : calls .query .free us = .done q []) :
    (newTable o.prelude).read calls .free
      (gs ++ (ts ++ ⟨.word ⟨text, quoted, some .AS⟩, apart⟩ :: us)) =
      .done (.createTable (o.heading t "AS") [.query q]) [] := by
  refine read_bind_of_done (read_guard named guard name nofun) ?_
  refine read_bind_of_done (read_name named name (undotted_cons nofun)) ?_
  -- Nothing that may come before the query does.
  refine read_bind_of_done rfl ?_
  refine read_bind_of_done (a := none) rfl ?_
  refine read_bind_of_done rfl (read_bind_of_done rfl ?_)
  refine read_bind_of_done rfl (read_bind_of_done rfl (read_bind_of_done rfl ?_))
  refine read_bind_of_done (a := false) rfl ?_
  refine read_bind_of_done rfl (read_bind_of_done rfl (read_bind_of_done rfl ?_))
  refine read_bind_of_done rfl (read_bind_of_done rfl (read_bind_of_done rfl ?_))
  refine read_bind_of_done (a := true) rfl ?_
  refine read_bind_of_done (p := Grammar.query) query ?_
  exact read_bind_of_done (a := [q]) rfl rfl

/-- A table is filled from any other one that the grammar takes there. -/
theorem readStatement_filled {o : Opening} {f : Filling} {t u : List Word} (named : t ≠ [])
    (copied : u ≠ []) (takes : f.Takes u) {ls : List Lexeme}
    (worded : Worded ls (o.pieces t ++ f.pieces u)) :
    readStatement ls.length ls =
      .done (.createTable (o.heading t "AS") [.query (f.query u)]) [] := by
  obtain ⟨os, fs, rfl, opens, filled⟩ := worded.split
  obtain ⟨gs, ts, guard, name, reads⟩ := readStatement_opening opens
  obtain ⟨_, _, _, us, rfl, source⟩ := filled.keyword
  refine (reads ..).mpr (newTable_filled named guard name ?_)
  exact query_filled copied takes source (_ + 396) 47

end QueryGateway.Sql
