import Mathlib
import QueryGateway.Postgres.Adapter
import QueryGateway.Proofs.Gateway.Clearance
import QueryGateway.Proofs.Sql.Enclosed.Item
import QueryGateway.Proofs.Sql.Enclosed.Lexing

/-! Queries between the brackets of a wrapper.

A query runs as the one item of a select around it. What lexemes a text has and what is read
from them does not depend on the bracket behind it (`lexes_before`, `enclosing_rules`). So a
text whose brackets match is the wrapper's item exactly if the query in it is read up to its
end (`parse_text_iff`), and what runs is what was checked exactly if the parser has left
nothing of the text behind (`runs_what_was_checked_iff`). It does leave something behind: what
follows the word `END`. -/
namespace QueryGateway.Postgres

open Sql Sql.Lexer Phrase Grammar

/-! ### Wrappers -/

/-- The two ways in which a query is wrapped. -/
inductive Wrapping where
  | aggregate | perRow

namespace Wrapping

/-- A query in its wrapper. -/
def text : Wrapping → String → String
  | aggregate => Postgres.aggregate
  | perRow => Postgres.perRow

/-- The text in front of the query. -/
def head : Wrapping → String
  | aggregate => "SELECT coalesce(json_agg(t), '[]'::json) AS data FROM ("
  | perRow => "SELECT to_jsonb(t) AS row FROM ("

theorem text_eq (w : Wrapping) (s : String) : w.text s = w.head ++ s ++ ") AS t" := by
  cases w <;> rfl

/-- What the wrapper's tree has to be. -/
def tree (_ : Wrapping) (q : Tree.Query) : Tree.Statement :=
  .query ⟨[], false, .select ⟨[.subquery q (some "t")], [], none⟩, []⟩

/-! ### Its lexemes -/

/-- The lexemes of what is selected from the query. -/
def selected : Wrapping → List Lexeme
  | aggregate =>
    [⟨.word ⟨"coalesce", false, some .other⟩, true⟩, ⟨.opening .round, false⟩,
     ⟨.word ⟨"json_agg", false, none⟩, false⟩, ⟨.opening .round, false⟩,
     ⟨.word ⟨"t", false, none⟩, false⟩, ⟨.closing .round, false⟩, ⟨.symbol .comma, false⟩,
     ⟨.string .plain "[]", true⟩, ⟨.symbol .doubleColon, false⟩,
     ⟨.word ⟨"json", false, some .JSON⟩, false⟩, ⟨.closing .round, false⟩,
     ⟨.word ⟨"AS", false, some .AS⟩, true⟩, ⟨.word ⟨"data", false, some .DATA⟩, true⟩]
  | perRow =>
    [⟨.word ⟨"to_jsonb", false, none⟩, true⟩, ⟨.opening .round, false⟩,
     ⟨.word ⟨"t", false, none⟩, false⟩, ⟨.closing .round, false⟩,
     ⟨.word ⟨"AS", false, some .AS⟩, true⟩, ⟨.word ⟨"row", false, some .ROW⟩, true⟩]

/-- The lexemes of a select from a row, from its bracket on. -/
def around (w : Wrapping) (row : List Lexeme) : List Lexeme :=
  ⟨.word ⟨"SELECT", false, some .SELECT⟩, true⟩ :: (w.selected ++
    ⟨.word ⟨"FROM", false, some .FROM⟩, true⟩ :: ⟨.opening .round, true⟩ :: row)

/-- The lexemes behind the query. -/
def behind (apart : Bool) : List Lexeme :=
  [⟨.closing .round, apart⟩, ⟨.word ⟨"AS", false, some .AS⟩, true⟩,
   ⟨.word ⟨"t", false, none⟩, true⟩]

theorem spells_t : Spells 't' [] ⟨"t", false, none⟩ := spells_letter rfl rfl rfl

theorem lexes_around (w : Wrapping) {rest : List Char} {row : List Lexeme}
    (more : Lexes (some (.opening .round)) rest row) :
    Lexes none (w.head.toList ++ rest) (w.around row) := by
  have bracket {previous : Option Token} : Lexes previous ('(' :: rest)
      (⟨.opening .round, previous.isNone⟩ :: row) :=
    .mark rfl more
  cases w with
  | aggregate =>
    obtain ⟨spellsCoalesce, spellsAgg, spellsJson, spellsData⟩ :
        Spells 'c' ['o', 'a', 'l', 'e', 's', 'c', 'e'] ⟨"coalesce", false, some .other⟩ ∧
          Spells 'j' ['s', 'o', 'n', '_', 'a', 'g', 'g'] ⟨"json_agg", false, none⟩ ∧
          Spells 'j' ['s', 'o', 'n'] ⟨"json", false, some .JSON⟩ ∧
          Spells 'd' ['a', 't', 'a'] ⟨"data", false, some .DATA⟩ := by
      decide +kernel
    show Lexes none ("SELECT coalesce(json_agg(t), '[]'::json) AS data FROM (".toList ++ rest) _
    refine .fixed spells_SELECT ?_
    apply Lexes.spelled spellsCoalesce
    · exact ends_cons _ (by decide)
    refine .mark rfl ?_
    apply Lexes.spelled spellsAgg
    · exact ends_cons _ (by decide)
    refine .mark rfl ?_
    apply Lexes.spelled spells_t
    · exact ends_cons _ (by decide)
    refine .mark rfl (.mark rfl (.space ?_))
    refine .token rfl (by simp) (.token rfl (by simp) ?_)
    apply Lexes.spelled spellsJson
    · exact ends_cons _ (by decide)
    refine .mark rfl (.space ?_)
    exact .fixed spells_AS (.fixed spellsData (.fixed spells_FROM bracket))
  | perRow =>
    obtain ⟨spellsFunction, spellsRow⟩ :
        Spells 't' ['o', '_', 'j', 's', 'o', 'n', 'b'] ⟨"to_jsonb", false, none⟩ ∧
          Spells 'r' ['o', 'w'] ⟨"row", false, some .ROW⟩ := by
      decide +kernel
    show Lexes none ("SELECT to_jsonb(t) AS row FROM (".toList ++ rest) _
    refine .fixed spells_SELECT ?_
    apply Lexes.spelled spellsFunction
    · exact ends_cons _ (by decide)
    refine .mark rfl ?_
    apply Lexes.spelled spells_t
    · exact ends_cons _ (by decide)
    refine .mark rfl (.space ?_)
    exact .fixed spells_AS (.fixed spellsRow (.fixed spells_FROM bracket))

/-- The lexemes of a text behind an opening bracket. -/
def lexemesWithin (s : String) : Option (List Lexeme) :=
  Lexer.lexemes s.toList.length (some (.opening .round)) s.toList

theorem lexes_text (w : Wrapping) {s : String} {row : List Lexeme}
    (uncommented : ¬ ['-', '-'] <:+: s.toList) (lexed : lexemesWithin s = some row)
    (spared : spared row = true) :
    ∃ apart, Lexes none (w.text s).toList (w.around (row ++ behind apart)) := by
  have following : Lexes (some (.closing .round)) [' ', 'A', 'S', ' ', 't']
      [⟨.word ⟨"AS", false, some .AS⟩, true⟩, ⟨.word ⟨"t", false, none⟩, true⟩] :=
    .space (.fixed spells_AS (.spelled spells_t ends_nil (.nil _)))
  obtain ⟨apart, lexes⟩ := lexes_before _ uncommented lexed spared following
  refine ⟨apart, ?_⟩
  have chars : (w.text s).toList =
      w.head.toList ++ (s.toList ++ ')' :: [' ', 'A', 'S', ' ', 't']) := by
    rw [text_eq, String.toList_append, String.toList_append, List.append_assoc]
    rfl
  rw [chars]
  exact w.lexes_around lexes

/-! ### Its reading -/

/-- What is selected from the query. -/
def projection : Wrapping → List Ast.Expr
  | aggregate => [.call [.call [.name [⟨"t", none⟩]], .form [.literal]]]
  | perRow => [.call [.name [⟨"t", none⟩]]]

/-- The wrapper of a query as the grammar knows it. -/
def wrapped (w : Wrapping) (q : Ast.Query) : Ast.Query :=
  ⟨[], false, .select ⟨w.projection, none, [⟨.derived q (some "t") [], []⟩], []⟩, []⟩

section Reading

variable {w : Wrapping} {fuel levels size : Nat} {apart : Bool} {row rest : List Lexeme}
  {q : Ast.Query} {t : Tree.Query}

set_option maxRecDepth 100000 in
theorem read_selected (w : Wrapping) (fuel levels : Nat) (row : List Lexeme) :
    selectItems.read (Rule.read phraseOf (fuel + 30) (levels + 10)) .free
        (w.selected ++ ⟨.word ⟨"FROM", false, some .FROM⟩, true⟩ :: row) =
      .done w.projection (⟨.word ⟨"FROM", false, some .FROM⟩, true⟩ :: row) := by
  cases w <;> cbv

/-- Nothing stands before what is selected. -/
theorem read_before_selected (w : Wrapping) (calls : Reader) (row : List Lexeme) :
    distinctness.read calls .free (w.selected ++ row) = .done [] (w.selected ++ row) ∧
      (after .TOP top).read calls .free (w.selected ++ row) = .done [] (w.selected ++ row) ∧
      (Phrase.ahead (spells .FROM)).read calls .free (w.selected ++ row) =
        .done false (w.selected ++ row) := by
  cases w <;> exact ⟨rfl, rfl, rfl⟩

section Inside

variable (inside : Rule.read phraseOf (fuel + 30) (levels + 10) .query .free row =
  .done q (behind apart))
include inside

theorem read_table : Rule.read phraseOf (fuel + 31) (levels + 10) .table .free
    (⟨.opening .round, true⟩ :: row) = .done (.derived q (some "t") []) [] := by
  have query : derived.read (Rule.read phraseOf (fuel + 30) (levels + 10)) .free
      (⟨.opening .round, true⟩ :: row) = .done (.derived q (some "t") []) [] := by
    refine read_bind_of_done (read_bind_of_done rfl (read_bind_of_done inside
      (read_bind_of_done rfl rfl))) ?_
    exact read_bind_of_done (a := (some "t", [])) rfl rfl
  have found : (Phrase.attempt derived).read (Rule.read phraseOf (fuel + 30) (levels + 10)) .free
      (⟨.opening .round, true⟩ :: row) = .done (some (.derived q (some "t") [])) [] :=
    read_attempt_of_done query
  exact read_bind_of_done rfl (read_bind_of_done rfl (read_bind_of_done rfl
    (read_bind_of_done found rfl)))

theorem read_tables : tables.read (Rule.read phraseOf (fuel + 31) (levels + 10)) .free
    (⟨.opening .round, true⟩ :: row) = .done [⟨.derived q (some "t") [], []⟩] [] := by
  have first : Grammar.joined.read (Rule.read phraseOf (fuel + 31) (levels + 10)) .free
      (⟨.opening .round, true⟩ :: row) = .done ⟨.derived q (some "t") [], []⟩ [] :=
    read_bind_of_done (read_table inside) rfl
  exact read_bind_of_done first rfl

theorem read_select : select.read (Rule.read phraseOf (fuel + 31) (levels + 10)) .free
      (w.around row) =
    .done ⟨w.projection, none, [⟨.derived q (some "t") [], []⟩], []⟩ [] := by
  obtain ⟨distinct, count, selects⟩ := w.read_before_selected
    (Rule.read phraseOf (fuel + 31) (levels + 10))
    (⟨.word ⟨"FROM", false, some .FROM⟩, true⟩ :: ⟨.opening .round, true⟩ :: row)
  have source : (after .FROM tables).read (Rule.read phraseOf (fuel + 31) (levels + 10)) .free
      (⟨.word ⟨"FROM", false, some .FROM⟩, true⟩ :: ⟨.opening .round, true⟩ :: row) =
      .done [⟨.derived q (some "t") [], []⟩] [] :=
    read_bind_of_done rfl (read_tables inside)
  refine read_bind_of_done rfl (read_bind_of_done distinct (read_bind_of_done count ?_))
  refine read_bind_of_done selects (read_bind_of_done (w.read_selected (fuel + 1) levels _) ?_)
  exact read_bind_of_done (a := false) rfl (read_bind_of_done (a := none) rfl
    (read_bind_of_done source rfl))

theorem read_query : Rule.read phraseOf (fuel + 33) (levels + 11) .query .free (w.around row) =
    .done (w.wrapped q) [] := by
  have operand : bodyOperand.read (Rule.read phraseOf (fuel + 31) (levels + 10)) .free
      (w.around row) =
      .done (.select ⟨w.projection, none, [⟨.derived q (some "t") [], []⟩], []⟩) [] :=
    read_bind_of_done (a := true) rfl (read_bind_of_done (read_select inside) rfl)
  have body : Rule.read phraseOf (fuel + 32) (levels + 10) (.body 0) .free (w.around row) =
      .done (.select ⟨w.projection, none, [⟨.derived q (some "t") [], []⟩], []⟩) [] :=
    read_bind_of_done operand rfl
  -- There is no WITH, and no word that changes data.
  refine read_bind_of_done (a := false) rfl (read_bind_of_done (a := ([], false)) rfl ?_)
  refine read_bind_of_done (a := false) rfl (read_bind_of_done (a := false) rfl ?_)
  refine read_bind_of_done (a := false) rfl (read_bind_of_done (a := false) rfl ?_)
  exact read_bind_of_done body rfl

end Inside

/-- The query between the brackets is what the wrapper selects from. -/
theorem read_wrapped (inside : Rule.read phraseOf (size + 396) 48 .query .free row =
      .done q (behind apart)) :
    readStatement size (w.around row) = .done (.query (w.wrapped q)) [] := by
  refine read_bind_of_done (p := .ahead next?) rfl ?_
  exact read_bind_of_done (read_query inside) rfl

theorem select_of_read {s : Ast.Select} {into : Option String} {embedded : List Tree.Query}
    (h : select.read (Rule.read phraseOf (fuel + 31) (levels + 10)) .free (w.around row) =
      .done s rest)
    (lowered : lowerBody (.select s) = .ok (.select ⟨[.subquery t (some "t")], embedded, into⟩)) :
    ∃ q l mid, Rule.read phraseOf (fuel + 30) (levels + 10) .query .free row = .done q (l :: mid) ∧
      l.token = .closing .round ∧ lowerQuery q = .ok t := by
  obtain ⟨distinct, count, selects⟩ := w.read_before_selected
    (Rule.read phraseOf (fuel + 31) (levels + 10))
    (⟨.word ⟨"FROM", false, some .FROM⟩, true⟩ :: ⟨.opening .round, true⟩ :: row)
  have h := read_next (read_next (read_next (read_next h rfl) distinct) count) selects
  have h := read_next (read_next (read_next h (w.read_selected (fuel + 1) levels _)) rfl) rfl
  obtain ⟨source, _, tables, h⟩ := read_bind_eq_done.mp h
  have tables := read_next tables rfl
  -- Of what follows the items the tree keeps nothing but queries.
  obtain ⟨conditions, same⟩ : ∃ conditions, s = ⟨w.projection, none, source, conditions⟩ := by
    obtain ⟨views, _, _, h⟩ := read_bind_eq_done.mp h
    obtain ⟨condition, _, _, h⟩ := read_bind_eq_done.mp h
    obtain ⟨groups, _, _, h⟩ := read_bind_eq_done.mp h
    obtain ⟨cluster, _, _, h⟩ := read_bind_eq_done.mp h
    obtain ⟨distribute, _, _, h⟩ := read_bind_eq_done.mp h
    obtain ⟨sort, _, _, h⟩ := read_bind_eq_done.mp h
    obtain ⟨having, _, _, h⟩ := read_bind_eq_done.mp h
    obtain ⟨windows, _, _, h⟩ := read_bind_eq_done.mp h
    cases h
    exact ⟨_, rfl⟩
  subst same
  obtain ⟨_, _, lowered⟩ := except_bind_eq_ok.mp lowered
  obtain ⟨⟨items, among⟩, hitems, lowered⟩ := except_bind_eq_ok.mp lowered
  obtain ⟨_, _, lowered⟩ := except_bind_eq_ok.mp lowered
  cases lowered
  exact query_of_tables tables hitems

theorem body_of_read {b : Ast.Body} {into : Option String} {embedded : List Tree.Query}
    (h : Rule.read phraseOf (fuel + 32) (levels + 10) (.body 0) .free (w.around row) =
      .done b rest)
    (lowered : lowerBody b = .ok (.select ⟨[.subquery t (some "t")], embedded, into⟩)) :
    ∃ q l mid, Rule.read phraseOf (fuel + 30) (levels + 10) .query .free row = .done q (l :: mid) ∧
      l.token = .closing .round ∧ lowerQuery q = .ok t := by
  obtain ⟨first, mid, operand, kinds⟩ := operand_of_body h
  obtain ⟨s, _, selects, done⟩ := read_bind_eq_done.mp (read_next operand rfl)
  cases done
  rcases kinds with rfl | ⟨_, _, _, rfl⟩
  · exact select_of_read selects lowered
  · obtain ⟨_, _, lowered⟩ := except_bind_eq_ok.mp lowered
    obtain ⟨_, _, lowered⟩ := except_bind_eq_ok.mp lowered
    cases lowered

theorem query_of_read {q' : Ast.Query}
    (h : Rule.read phraseOf (fuel + 33) (levels + 11) .query .free (w.around row) = .done q' rest)
    (lowered : lowerQuery q' = .ok ⟨[], false, .select ⟨[.subquery t (some "t")], [], none⟩, []⟩) :
    ∃ q l mid, Rule.read phraseOf (fuel + 30) (levels + 10) .query .free row = .done q (l :: mid) ∧
      l.token = .closing .round ∧ lowerQuery q = .ok t := by
  -- There is no WITH, and no word that changes data.
  have h := read_next (read_next h rfl) rfl
  have h := read_next (read_next (read_next (read_next h rfl) rfl) rfl) rfl
  obtain ⟨b, _, body, h⟩ := read_bind_eq_done.mp h
  obtain ⟨trailing, same⟩ : ∃ trailing, q' = ⟨[], false, b, trailing⟩ := by
    obtain ⟨order, _, _, h⟩ := read_bind_eq_done.mp h
    obtain ⟨window, _, _, h⟩ := read_bind_eq_done.mp h
    obtain ⟨_, _, _, h⟩ := read_bind_eq_done.mp h
    obtain ⟨_, _, _, h⟩ := read_bind_eq_done.mp h
    cases h
    exact ⟨_, rfl⟩
  subst same
  obtain ⟨_, _, lowered⟩ := except_bind_eq_ok.mp lowered
  obtain ⟨b', hb, lowered⟩ := except_bind_eq_ok.mp lowered
  obtain ⟨_, _, lowered⟩ := except_bind_eq_ok.mp lowered
  cases lowered
  exact body_of_read body hb

/-- What the wrapper selects from was read between the brackets. -/
theorem statement_of_read {s : Ast.Statement}
    (h : readStatement size (w.around row) = .done s rest)
    (lowered : lowerStatement s = .ok (w.tree t)) :
    ∃ q l mid, Rule.read phraseOf (size + 396) 48 .query .free row = .done q (l :: mid) ∧
      l.token = .closing .round ∧ lowerQuery q = .ok t := by
  obtain ⟨q', _, query, h⟩ := read_bind_eq_done.mp (read_next (p := .ahead next?) h rfl)
  cases h
  obtain ⟨_, hq, same⟩ := except_bind_eq_ok.mp lowered
  cases same
  exact query_of_read query hq

section Enclosed

variable (enclosed : Open 0 row)
include enclosed

/-- In front of the bracket a query reads as at the end of the text. -/
theorem agrees_inside (fuel levels : Nat) (apart : Bool) :
    Sql.Agrees (behind apart) (fun _ => Open 0) (Rule.read phraseOf fuel levels .query .free row)
      (Rule.read phraseOf fuel levels .query .free (row ++ behind apart)) :=
  (enclosing_rules rfl fuel levels).alike rfl 0 .free row enclosed

theorem read_inside (apart : Bool)
    (alone : Rule.read phraseOf fuel levels .query .free row = .done q []) :
    Rule.read phraseOf fuel levels .query .free (row ++ behind apart) = .done q (behind apart) := by
  have agrees := agrees_inside enclosed fuel levels apart
  rw [alone] at agrees
  exact agrees.1

/-- A query that ends at a bracket is read up to the end of the text, for nothing is open in
the text that the bracket could close. -/
theorem read_alone {l : Lexeme} {mid : List Lexeme} (closes : l.token = .closing .round)
    (inside : Rule.read phraseOf fuel levels .query .free (row ++ behind apart) =
      .done q (l :: mid)) :
    Rule.read phraseOf fuel levels .query .free row = .done q [] := by
  have agrees := agrees_inside enclosed fuel levels apart
  rw [inside] at agrees
  cases alone : Rule.read phraseOf fuel levels .query .free row with
  | done q' left =>
    rw [alone] at agrees
    obtain ⟨same, even⟩ := agrees
    obtain ⟨rfl, whole⟩ := Outcome.done.inj same
    cases left with
    | nil => rfl
    | cons first left =>
      obtain ⟨rfl, _⟩ := List.cons.inj whole
      have even := even.balanced
      rw [balanced, closes] at even
      cases even
  | mismatch =>
    rw [alone] at agrees
    cases agrees
  | refused =>
    rw [alone] at agrees
    cases agrees

end Enclosed

end Reading

/-! ### Its tree -/

theorem lower_wrapped (w : Wrapping) {q : Ast.Query} {t : Tree.Query} (hq : lowerQuery q = .ok t) :
    lowerStatement (.query (w.wrapped q)) = .ok (w.tree t) := by
  have projection : lowerExprs w.projection = .ok [] := by
    cases w <;> rfl
  simp only [lowerStatement, wrapped, lowerQuery, lowerCtes, lowerBody, projection, lowerTables,
    lowerJoined, lowerFactor, hq, lowerJoins, lowerExprs]
  rfl

/-- The query at the front of a row, read within what the wrapper leaves of the nesting limit. -/
def queryWithin (w : Wrapping) (row : List Lexeme) : Sql.Outcome Ast.Query :=
  Rule.read phraseOf ((w.around row).length + 8 * nestingLimit - 1) (nestingLimit - 2) .query .free
    row

theorem queryWithin_eq (w : Wrapping) (row : List Lexeme) (apart : Bool) :
    w.queryWithin row = Rule.read phraseOf ((w.around (row ++ behind apart)).length + 396) 48
      .query .free row := by
  have length : (w.around (row ++ behind apart)).length = (w.around row).length + 3 := by
    simp only [around, List.length_cons, List.length_append, behind, List.length_nil]
    omega
  rw [length, queryWithin, nestingLimit]
  rfl

/-- **What is in the brackets.** The tree of a wrapped text is the wrapper of a query exactly if
that query is read from the whole of the text. -/
theorem parse_text_iff (w : Wrapping) {s : String} {within : List Lexeme} {t : Tree.Query}
    (uncommented : ¬ ['-', '-'] <:+: s.toList) (lexed : lexemesWithin s = some within)
    (enclosed : Open 0 within) :
    Sql.parse (w.text s) = .ok (w.tree t) ↔
      ∃ q, w.queryWithin within = .done q [] ∧ lowerQuery q = .ok t := by
  obtain ⟨apart, lexes⟩ := w.lexes_text uncommented lexed enclosed.spared
  rw [w.queryWithin_eq within apart]
  constructor
  · intro parsed
    obtain ⟨st, rest, reads, lowered⟩ := reads_of_parse lexes rfl parsed
    obtain ⟨q, l, mid, inside, closes, hq⟩ := statement_of_read reads lowered
    exact ⟨q, read_alone enclosed closes inside, hq⟩
  · rintro ⟨q, alone, hq⟩
    have reads := w.read_wrapped (read_inside enclosed apart alone)
    have visible : ∃ c ∈ (w.text s).toList, Text.isBlank c = false := by
      refine ⟨'S', ?_, rfl⟩
      rw [text_eq, String.toList_append, String.toList_append]
      cases w <;> exact List.mem_append_left _ (List.mem_append_left _ (List.mem_cons_self ..))
    rw [parse_of_lexes lexes rfl visible reads]
    exact w.lower_wrapped hq

/-! ### What was checked -/

/-- The statement at the front of a text. -/
def firstStatement (s : String) : Sql.Outcome Ast.Statement :=
  match lex s.toList with
  | some ls => readStatement ls.length ls
  | none => .mismatch

/-- What follows the statement at the front of a text. -/
def leftBehind (s : String) : List Lexeme :=
  match firstStatement s with
  | .done _ rest => rest
  | _ => []

/-- Whether a text fits between the brackets: its own brackets match, and the query at its
front needs no more nesting than the wrapper leaves. -/
def Fits (w : Wrapping) (s : String) : Prop :=
  ∃ within q rest, lexemesWithin s = some within ∧ Open 0 within ∧
    firstStatement s = .done (.query q) rest ∧ w.queryWithin within = .done q rest

/-- The statement that was checked is the one at the front. -/
theorem lower_first {s : String} {st : Ast.Statement} {rest : List Lexeme} {tree : Tree.Statement}
    (first : firstStatement s = .done st rest) (parsed : Sql.parse s = .ok tree) :
    lowerStatement st = .ok tree := by
  obtain ⟨st', reads, lowered⟩ := parse_eq_ok parsed
  unfold firstStatement at first
  split at first
  · rw [read_of_first ‹_› first] at reads
    obtain ⟨_, _, same⟩ := Option.map_eq_some_iff.mp reads
    cases same
    exact lowered
  · cases first

/-- **What runs is what was checked, if the text was read to its end.** A text that fits
between the brackets of a wrapper is run as the query it was checked as, which is all that
the wrapper selects from, exactly if the parser has left nothing of it behind. -/
theorem runs_what_was_checked_iff (w : Wrapping) {s : String} {t : Tree.Query}
    (checked : precheck s = .ok ()) (parsed : Sql.parse s = .ok (.query t)) (fits : w.Fits s) :
    Sql.parse (w.text s) = .ok (w.tree t) ↔ leftBehind s = [] := by
  obtain ⟨within, q, rest, lexed, enclosed, first, inside⟩ := fits
  have hq : lowerQuery q = .ok t := by
    obtain ⟨_, hq, same⟩ := except_bind_eq_ok.mp (lower_first first parsed)
    cases same
    exact hq
  rw [w.parse_text_iff (precheck_eq_ok.mp checked).2 lexed enclosed, leftBehind, first, inside]
  constructor
  · rintro ⟨q', same, _⟩
    cases same
    rfl
  · rintro rfl
    exact ⟨q, rfl, hq⟩

/-- The lexemes of a select of a function. -/
def functionLexemes (apart : Bool) : List Lexeme :=
  [⟨.word ⟨"SELECT", false, some .SELECT⟩, apart⟩, ⟨.word ⟨"f", false, none⟩, true⟩,
   ⟨.opening .round, false⟩, ⟨.word ⟨"x", false, none⟩, false⟩, ⟨.closing .round, false⟩]

/-- A select of a function. -/
def functionQuery : Ast.Query :=
  ⟨[], false, .select ⟨[.call [.name [⟨"x", none⟩]]], none, [], []⟩, []⟩

set_option maxRecDepth 100000 in
theorem read_function :
    readStatement 5 (functionLexemes true) = .done (.query functionQuery) [] := by
  cbv

set_option maxRecDepth 100000 in
theorem function_within :
    Wrapping.perRow.queryWithin (functionLexemes false) = .done functionQuery [] := by
  cbv

/-- A function is selected in brackets as it was selected without. -/
theorem function_runs_as_checked : precheck "SELECT f(x)" = .ok () ∧
    ∃ t, Sql.parse "SELECT f(x)" = .ok (.query t) ∧
      Sql.parse (Postgres.perRow "SELECT f(x)") = .ok (Wrapping.perRow.tree t) := by
  have checked : precheck "SELECT f(x)" = .ok () := by
    decide +kernel
  have lexed : lex "SELECT f(x)".toList = some (functionLexemes true) := by
    decide +kernel
  have within : lexemesWithin "SELECT f(x)" = some (functionLexemes false) := by
    decide +kernel
  have first : firstStatement "SELECT f(x)" = .done (.query functionQuery) [] := by
    rw [firstStatement, lexed]
    exact read_function
  have parsed : Sql.parse "SELECT f(x)" = .ok (.query ⟨[], false, .select ⟨[], [], none⟩, []⟩) := by
    have visible : Text.isBlankText "SELECT f(x)" = false := by
      decide +kernel
    rw [Sql.parse, visible, read_of_first lexed read_function]
    rfl
  have fits : Wrapping.perRow.Fits "SELECT f(x)" :=
    ⟨_, _, _, within, ⟨rfl, by decide +kernel⟩, first, function_within⟩
  refine ⟨checked, _, parsed, (runs_what_was_checked_iff .perRow checked parsed fits).mpr ?_⟩
  rw [leftBehind, first]

/-- A text that closes the wrapper's bracket behind the word at which the parser stops. -/
def smuggler : String := "SELECT CROSS JOIN END) AS u, (SELECT * FROM secret"

/-- Whether a text is read as a select from nothing. -/
def selectsNothing : Except ParseFailure Tree.Statement → Bool
  | .ok (.query ⟨[], false, .select ⟨[], [], none⟩, []⟩) => true
  | _ => false

theorem eq_of_selectsNothing {read : Except ParseFailure Tree.Statement}
    (shape : selectsNothing read = true) :
    read = .ok (.query ⟨[], false, .select ⟨[], [], none⟩, []⟩) := by
  unfold selectsNothing at shape
  split at shape
  case h_1 => rfl
  case h_2 => cases shape

theorem parse_smuggler :
    Sql.parse smuggler = .ok (.query ⟨[], false, .select ⟨[], [], none⟩, []⟩) := by
  have shape : selectsNothing (Sql.parse smuggler) = true := by
    decide +kernel
  exact eq_of_selectsNothing shape

/-- What runs of the text: the brackets join two tables, and a third one is read behind them. -/
def smuggled : Tree.Query :=
  ⟨[], false, .select ⟨[.table "SELECT", .table "END",
    .subquery ⟨[], false, .select ⟨[.table "secret"], [], none⟩, []⟩ (some "t")], [], none⟩, []⟩

/-- Whether a text is read as a select from two tables and from a labelled select from a third,
with these names. -/
def selectsFromThree (names : List String) : Except ParseFailure Tree.Statement → Bool
  | .ok (.query ⟨[], false, .select ⟨[.table a, .table b,
      .subquery ⟨[], false, .select ⟨[.table c], [], none⟩, []⟩ (some d)], [], none⟩, []⟩) =>
    [a, b, c, d] == names
  | _ => false

theorem eq_of_selectsFromThree {a b c d : String} {read : Except ParseFailure Tree.Statement}
    (shape : selectsFromThree [a, b, c, d] read = true) :
    read = .ok (.query ⟨[], false, .select ⟨[.table a, .table b,
      .subquery ⟨[], false, .select ⟨[.table c], [], none⟩, []⟩ (some d)], [], none⟩, []⟩) := by
  unfold selectsFromThree at shape
  split at shape
  case h_1 =>
    cases eq_of_beq shape
    rfl
  case h_2 => cases shape

theorem parse_perRow_smuggler :
    Sql.parse (Postgres.perRow smuggler) = .ok (.query smuggled) := by
  have shape : selectsFromThree ["SELECT", "END", "secret", "t"]
      (Sql.parse (Postgres.perRow smuggler)) = true := by
    decide +kernel
  exact eq_of_selectsFromThree shape

open QueryGateway.Tree in
theorem secret_mem_smuggled :
    ⟨"secret", .read, .subquery⟩ ∈ (Tree.Statement.query smuggled).references := by
  simp [smuggled, Statement.references, Statement.mentions, Query.mentions, ctesInOrder,
    boundNames, Body.mentions, itemsMentions, Item.mentions, queriesMentions, mention, readOf,
    Scope.binds]

/-- The text is checked as a query that reads no relation, and its wrapper reads one. -/
theorem smuggler_runs_unchecked : precheck smuggler = .ok () ∧
    ∃ t ran, Sql.parse smuggler = .ok (.query t) ∧
      (Tree.Statement.query t).classify = .ok .read ∧
      (Tree.Statement.query t).references = [] ∧
      Sql.parse (Postgres.perRow smuggler) = .ok ran ∧ ran ≠ Wrapping.perRow.tree t ∧
      ⟨"secret", .read, .subquery⟩ ∈ ran.references := by
  have checked : precheck smuggler = .ok () := by
    decide +kernel
  refine ⟨checked, _, _, parse_smuggler, rfl, rfl, parse_perRow_smuggler, ?_, secret_mem_smuggled⟩
  intro same
  cases same

end Wrapping

end QueryGateway.Postgres
