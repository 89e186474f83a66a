import QueryGateway.Proofs.Relation.Exactness
import QueryGateway.Proofs.Sql.Unbracketed

/-! Tables behind `ONLY`.

To the database the word marks the table behind it. The grammar takes it for a name: of a
table, whose alias the marked table then is, or of a function, whose argument a marked table
in brackets is. So the tree is the same whatever table is marked (`parse_marked`,
`parse_bracketed`), and extraction never comes upon it. -/
namespace QueryGateway.Sql

open Lexer Phrase Grammar Ast
open QueryGateway.Tree (Catches)

/-- The word, which is a keyword. -/
def onlyWord : Word := ⟨"ONLY", false, some .ONLY⟩

theorem spells_ONLY : Spells 'O' ['N', 'L', 'Y'] onlyWord :=
  spells_fixed ('O', ['N', 'L', 'Y'], .ONLY) (by simp [fixedWords])

theorem relation_ONLY : Name.relation [⟨"ONLY", none⟩] = "ONLY" := by
  decide

/-- The lexemes of `SELECT * FROM ONLY` before others. -/
def readOnly (ls : List Lexeme) : List Lexeme :=
  ⟨.word ⟨"SELECT", false, some .SELECT⟩, true⟩ :: ⟨.symbol .star, true⟩ ::
    ⟨.word ⟨"FROM", false, some .FROM⟩, true⟩ :: ⟨.word onlyWord, true⟩ :: ls

theorem lexes_readOnly {rest : List Char} {ls : List Lexeme} (more : Lexes none rest ls) :
    Lexes none ("SELECT * FROM ONLY ".toList ++ rest) (readOnly ls) := by
  refine .fixed spells_SELECT (.mark rfl (.space ?_))
  exact .fixed spells_FROM (.fixed spells_ONLY more)

/-! ### Marked tables -/

/-- The statements that take a marked table. -/
inductive Marking where
  | read | update | deletion

namespace Marking

/-- What stands before the table. -/
def before : Marking → String
  | read => "SELECT * FROM ONLY "
  | update => "UPDATE ONLY "
  | deletion => "DELETE FROM ONLY "

/-- What stands behind the table. -/
def behind : Marking → String
  | read | deletion => ""
  | update => " SET c = 1"

/-- A statement on a marked table. -/
def text (m : Marking) (t : Written) : String := m.before ++ String.ofList t.chars ++ m.behind

theorem toList_text (m : Marking) (t : Written) :
    (m.text t).toList = m.before.toList ++ (t.chars ++ m.behind.toList) := by
  simp [text]

/-- What the statement does with its table. -/
def role : Marking → Role
  | read => .read
  | update | deletion => .write

/-- The lexemes of the statement. -/
def lexemes (t : Word) : Marking → List Lexeme
  | read => readOnly [⟨.word t, true⟩]
  | update =>
    [⟨.word ⟨"UPDATE", false, some .UPDATE⟩, true⟩, ⟨.word onlyWord, true⟩, ⟨.word t, true⟩,
     ⟨.word ⟨"SET", false, some .SET⟩, true⟩, ⟨.word ⟨"c", false, none⟩, true⟩,
     ⟨.symbol .equal, true⟩, ⟨.number "1" false, true⟩]
  | deletion =>
    [⟨.word ⟨"DELETE", false, some .DELETE⟩, true⟩, ⟨.word ⟨"FROM", false, some .FROM⟩, true⟩,
     ⟨.word onlyWord, true⟩, ⟨.word t, true⟩]

/-- What the grammar reads: the marked table is an alias, which is not kept. -/
def reading : Marking → Ast.Statement
  | read => .query ⟨[], false, .select ⟨[], none, [⟨.table [⟨"ONLY", none⟩] [], []⟩], []⟩, []⟩
  | update => .update ⟨⟨.table [⟨"ONLY", none⟩] [], []⟩, [], [.literal], [], [], []⟩
  | deletion => .delete ⟨[], [⟨.table [⟨"ONLY", none⟩] [], []⟩], [], [], [], []⟩

/-- The tree of the statement. -/
def tree : Marking → Tree.Statement
  | read => .query ⟨[], false, .select ⟨[.table "ONLY"], [], none⟩, []⟩
  | update => .update ⟨[.table "ONLY"], [], []⟩
  | deletion => .delete ⟨[.table "ONLY"], [], []⟩

end Marking

theorem lexes_marked (m : Marking) (t : Written) :
    Lexes none (m.text t).toList (m.lexemes t.word) := by
  rw [m.toList_text]
  cases m with
  | read => exact lexes_readOnly (.written t ends_nil (.nil _))
  | update =>
    have spellsColumn : Spells 'c' [] ⟨"c", false, none⟩ := spells_letter rfl rfl rfl
    refine .fixed spells_UPDATE (.fixed spells_ONLY ?_)
    refine .written t (ends_space _) (.space ?_)
    refine .fixed spells_SET (.fixed spellsColumn ?_)
    exact .mark rfl (.space (.mark rfl (.nil _)))
  | deletion =>
    refine .fixed spells_DELETE (.fixed spells_FROM (.fixed spells_ONLY ?_))
    exact .written t ends_nil (.nil _)

/-- The tree does not hold the marked table. -/
theorem parse_marked (m : Marking) {t : Written} (bare : t.isQuoted = false)
    (plain : t.word.keyword = none) : parse (m.text t) = .ok m.tree := by
  have first : startsWord (m.lexemes t.word) = true := by
    cases m <;> rfl
  have visible : ∃ c ∈ (m.text t).toList, Text.isBlank c = false := by
    rw [m.toList_text]
    exact ⟨'E', List.mem_append_left _ (by cases m <;> decide), by decide⟩
  have reads : readStatement (m.lexemes t.word).length (m.lexemes t.word) =
      .done m.reading [] := by
    rw [t.word_eq plain, bare]
    cases m <;> rfl
  rw [parse_of_lexes (lexes_marked m t) first visible reads]
  cases m <;> rfl

open QueryGateway.Tree in
theorem references_marked (m : Marking) : m.tree.references = [⟨"ONLY", m.role, .own⟩] := by
  cases m
  all_goals
    simp [Marking.tree, Marking.role, Statement.references, Statement.mentions, Query.mentions,
      ctesInOrder, boundNames, Body.mentions, itemsMentions, Item.mentions, queriesMentions,
      mention, readOf, Scope.binds]

/-- The word itself is a keyword, so the marked table is another relation. -/
theorem relation_ne_ONLY {t : Written} (bare : t.isQuoted = false)
    (plain : t.word.keyword = none) : Name.relation [t.ident] ≠ "ONLY" := by
  intro same
  rw [relation_ident, stripQuotes_of_bare bare] at same
  have letters : t.value = ['O', 'N', 'L', 'Y'] := by
    rw [← String.toList_ofList (l := t.value), same]
    rfl
  have keyword : (Word.bare ['O', 'N', 'L', 'Y']).keyword ≠ none := by
    decide +kernel
  cases t with
  | quoted _ => cases bare
  | bare => exact keyword (letters ▸ plain)

/-- All that extraction comes upon is the mark. -/
theorem not_catches_marked (m : Marking) {t : Written} (bare : t.isQuoted = false)
    (plain : t.word.keyword = none) (p : Policy) :
    ¬ Catches p m.tree m.role (Name.relation [t.ident]) := by
  intro caught
  obtain ⟨r, hr, same⟩ := caught.exists_reference
  rw [references_marked, List.mem_singleton] at hr
  subst hr
  exact relation_ne_ONLY bare plain same.symm

/-! ### Marked tables in brackets -/

/-- A read of a marked table in brackets. -/
def bracketedRead (n : List Written) : String :=
  "SELECT * FROM ONLY " ++ String.ofList ('(' :: (dotted n ++ [')']))

/-- Lexemes between round brackets. -/
def enclosed (ls : List Lexeme) : List Lexeme :=
  ⟨.opening .round, true⟩ :: (ls ++ [⟨.closing .round, false⟩])

theorem lexes_bracketedRead {n : List Written} (named : n ≠ []) :
    ∃ ls, Lexes none (bracketedRead n).toList (readOnly (enclosed ls)) ∧ Bracketless ls := by
  have text : (bracketedRead n).toList =
      "SELECT * FROM ONLY ".toList ++ ('(' :: (dotted n ++ [')'])) := by
    unfold bracketedRead
    simp
  have closes (w : Word) : Lexes (some (.word w)) [')'] [⟨.closing .round, false⟩] :=
    .mark rfl (.nil _)
  obtain ⟨ls, lexes, kinds⟩ := lexes_dotted named (ends_cons [] (by decide)) closes
  refine ⟨ls, ?_, fun l hl => ?_⟩
  · rw [text]
    exact lexes_readOnly (.mark rfl lexes)
  · rcases kinds l hl with dot | ⟨w, word⟩
    · rw [dot]
      exact ⟨nofun, nofun⟩
    · rw [word]
      exact ⟨nofun, nofun⟩

/-- What the word is taken for before brackets: a function whose arguments embed no query. -/
def Calls (f : Factor) : Prop :=
  ∃ parts, f = .function [⟨"ONLY", none⟩] parts [] ∧ ∀ e ∈ parts, Queryless e

section Reading

variable {ls rest : List Lexeme} (bracketless : Bracketless ls)
include bracketless

/-- The arguments in the brackets end where the brackets do. -/
theorem tableArguments_enclosed {calls : Reader} [Plain calls] {es : List Expr}
    (h : tableArguments.read calls .free (enclosed ls) = .done es rest) :
    rest = [] ∧ ∀ e ∈ es, Queryless e := by
  obtain ⟨given, _, inside, done⟩ := read_bind_eq_done.mp h
  cases done
  have arguments : Gives calls argument fun es => ∀ e ∈ es, Queryless e := gives_argument
  obtain ⟨ended, plain⟩ := Gives.listOrNone arguments |>.enclosed bracketless inside
  refine ⟨ended, fun e he => ?_⟩
  obtain ⟨es, hes, he⟩ := List.mem_flatten.mp he
  exact plain es hes e he

theorem namedTable_only {calls : Reader} [Plain calls] {f : Factor}
    (h : namedTable.read calls .free (⟨.word onlyWord, true⟩ :: enclosed ls) = .done f rest) :
    rest = [] ∧ Calls f := by
  have h := read_next (read_next h rfl) rfl
  obtain ⟨parts, _, arguments, h⟩ := read_bind_eq_done.mp h
  obtain ⟨rfl, plain⟩ := tableArguments_enclosed bracketless arguments
  cases h
  exact ⟨rfl, parts, rfl, plain⟩

variable {fuel levels : Nat}

theorem table_only {f : Factor} (h : Rule.read phraseOf fuel levels .table .free
      (⟨.word onlyWord, true⟩ :: enclosed ls) = .done f rest) :
    rest = [] ∧ Calls f := by
  obtain ⟨fuel, levels, _, h⟩ := phrase_of_rule h
  -- No other kind of item begins with the word.
  have h := read_next (read_next (read_next (read_next (read_next h rfl) rfl) rfl) rfl) rfl
  exact namedTable_only bracketless h

theorem tables_only {ts : List Joined} (h : tables.read (Rule.read phraseOf fuel levels) .free
      (⟨.word onlyWord, true⟩ :: enclosed ls) = .done ts rest) :
    rest = [] ∧ ∃ f, ts = [⟨f, []⟩] ∧ Calls f := by
  obtain ⟨_, _, h, more⟩ := read_bind_eq_done.mp h
  obtain ⟨f, _, first, done⟩ := read_bind_eq_done.mp h
  obtain ⟨rfl, calls⟩ := table_only bracketless first
  cases done
  cases more
  exact ⟨rfl, f, rfl, calls⟩

theorem select_only {s : Ast.Select} (h : select.read (Rule.read phraseOf fuel levels) .free
      (readOnly (enclosed ls)) = .done s rest) :
    rest = [] ∧ ∃ f, s = ⟨[], none, [⟨f, []⟩], []⟩ ∧ Calls f := by
  -- The clauses before `FROM`: the star is all that is selected.
  have h := read_next (read_next (read_next (read_next h rfl) rfl) rfl) rfl
  have h := read_next (read_next (read_next h rfl) rfl) rfl
  obtain ⟨_, _, source, h⟩ := read_bind_eq_done.mp h
  obtain ⟨rfl, f, rfl, calls⟩ := tables_only bracketless (read_next source rfl)
  cases h
  exact ⟨rfl, f, rfl, calls⟩

theorem body_only {b : Ast.Body} (h : Rule.read phraseOf fuel levels (.body 0) .free
      (readOnly (enclosed ls)) = .done b rest) :
    rest = [] ∧ ∃ f, b = .select ⟨[], none, [⟨f, []⟩], []⟩ ∧ Calls f := by
  obtain ⟨fuel, levels, _, h⟩ := phrase_of_rule h
  obtain ⟨_, _, first, more⟩ := read_bind_eq_done.mp h
  obtain ⟨s, _, selects, done⟩ := read_bind_eq_done.mp (read_next first rfl)
  obtain ⟨rfl, f, rfl, calls⟩ := select_only bracketless selects
  cases done
  cases more
  exact ⟨rfl, f, rfl, calls⟩

theorem query_only {q : Ast.Query} (h : Rule.read phraseOf fuel levels .query .free
      (readOnly (enclosed ls)) = .done q rest) :
    rest = [] ∧ ∃ f, q = ⟨[], false, .select ⟨[], none, [⟨f, []⟩], []⟩, []⟩ ∧ Calls f := by
  obtain ⟨fuel, levels, _, h⟩ := phrase_of_rule h
  -- There is no `WITH`, and no word that changes data.
  have h := read_next (read_next h rfl) rfl
  have h := read_next (read_next (read_next (read_next h rfl) rfl) rfl) rfl
  obtain ⟨_, _, body, h⟩ := read_bind_eq_done.mp h
  obtain ⟨rfl, f, rfl, calls⟩ := body_only bracketless body
  cases h
  exact ⟨rfl, f, rfl, calls⟩

theorem statement_only {size : Nat} {s : Ast.Statement}
    (h : readStatement size (readOnly (enclosed ls)) = .done s rest) :
    ∃ f, s = .query ⟨[], false, .select ⟨[], none, [⟨f, []⟩], []⟩, []⟩ ∧ Calls f := by
  obtain ⟨fuel, levels, _, h⟩ := phrase_of_rule h
  obtain ⟨_, _, query, h⟩ := read_bind_eq_done.mp (read_next h rfl)
  obtain ⟨rfl, f, rfl, calls⟩ := query_only bracketless query
  cases h
  exact ⟨f, rfl, calls⟩

end Reading

/-- The tree of a read of a marked table in brackets, which does not hold the table. -/
def bracketedTree : Tree.Statement :=
  .query ⟨[], false, .select ⟨[.function "ONLY" []], [], none⟩, []⟩

theorem parse_bracketed {n : List Written} (named : n ≠ []) {tree : Tree.Statement}
    (parsed : parse (bracketedRead n) = .ok tree) : tree = bracketedTree := by
  obtain ⟨ls, lexes, bracketless⟩ := lexes_bracketedRead named
  obtain ⟨s, _, reads, lowered⟩ := reads_of_parse lexes rfl parsed
  obtain ⟨f, rfl, parts, rfl, plain⟩ := statement_only bracketless reads
  have given := lowerExprs_of_queryless plain
  simp only [lowerStatement, lowerQuery, lowerCtes, lowerBody, lowerTables, lowerJoined,
    lowerFactor, given, lowerJoins, lowerExprs, relation_ONLY] at lowered
  cases lowered
  rfl

open QueryGateway.Tree in
theorem references_bracketedTree : bracketedTree.references = [] := by
  simp [bracketedTree, Statement.references, Statement.mentions, Query.mentions, ctesInOrder,
    Body.mentions, itemsMentions, Item.mentions, queriesMentions]

/-! ### The mark hides tables -/

/-- **No marked table is ever caught.** A statement on a marked table is accepted, and the
mark is recorded in the table's place; what is accepted with a marked table in brackets,
qualified or not, reads no relation at all. -/
theorem marked_never_caught (m : Marking) (t : Written) (bare : t.isQuoted = false)
    (plain : t.word.keyword = none) (n : List Written) (named : n ≠ []) :
    (∃ tree, parse (m.text t) = .ok tree ∧ tree.references = [⟨"ONLY", m.role, .own⟩] ∧
      ∀ p : Policy, ¬ Catches p tree m.role (Name.relation [t.ident])) ∧
    ∀ tree, parse (bracketedRead n) = .ok tree → tree.references = [] ∧
      ∀ p : Policy, ¬ Catches p tree .read (Name.relation (n.map Written.ident)) := by
  constructor
  · exact ⟨m.tree, parse_marked m bare plain, references_marked m,
      not_catches_marked m bare plain⟩
  · intro tree parsed
    rw [parse_bracketed named parsed]
    refine ⟨references_bracketedTree, fun p caught => ?_⟩
    obtain ⟨r, hr, _⟩ := caught.exists_reference
    rw [references_bracketedTree] at hr
    cases hr

/-- A bare identifier. -/
def parcels : Written :=
  .bare 'p' ['a', 'r', 'c', 'e', 'l', 's'] (by decide) (List.all_eq_true.mp (by decide))

theorem parcels_plain : parcels.word.keyword = none := by
  decide +kernel

/-- Behind the mark neither a bare name is caught nor a qualified one in brackets. -/
theorem marked_parcels_not_caught :
    (∃ tree, parse "SELECT * FROM ONLY parcels" = .ok tree ∧
      ∀ p : Policy, ¬ Catches p tree .read "parcels") ∧
    ∃ tree, parse "SELECT * FROM ONLY (\"public\".parcels)" = .ok tree ∧
      ∀ p : Policy, ¬ Catches p tree .read "public.parcels" := by
  let n : List Written := [.quoted ['p', 'u', 'b', 'l', 'i', 'c'], parcels]
  obtain ⟨⟨tree, parsed, _, uncaught⟩, inBrackets⟩ :=
    marked_never_caught .read parcels rfl parcels_plain n (List.cons_ne_nil _ _)
  refine ⟨⟨tree, parsed, uncaught⟩, ?_⟩
  have accepted : (parse (bracketedRead n)).isOk = true := by
    decide +kernel
  cases parsed : parse (bracketedRead n) with
  | ok tree => exact ⟨tree, parsed, (inBrackets tree parsed).2⟩
  | error e =>
    rw [parsed] at accepted
    cases accepted

/-- A read of `parcels` behind the mark is accepted, and no policy hears of the table. -/
theorem marked_read_escapes : ∃ tree, parse "SELECT * FROM ONLY parcels" = .ok tree ∧
    ∀ p : Policy, ¬ Catches p tree .read "parcels" := by
  exact ⟨_, parse_marked .read (t := parcels) rfl parcels_plain,
    not_catches_marked .read rfl parcels_plain⟩

end QueryGateway.Sql
