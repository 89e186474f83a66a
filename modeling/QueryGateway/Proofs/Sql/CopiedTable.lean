import QueryGateway.Proofs.Relation.Exactness
import QueryGateway.Proofs.Sql.FilledTable
import QueryGateway.Proofs.Sql.ForbiddenSchema

/-! Tables that are made from other tables.

The query that fills a new table is a part of the tree, so what it draws on is heeded. The
table whose definition is copied is no part of it: the tree is the same whatever table that
is (`parse_like_other`), and of a creation that says no more it holds the created name alone
(`parse_copied`). -/
namespace QueryGateway.Sql

open Lexer Phrase Grammar Ast
open QueryGateway.Tree (Heeds extract_eq_ok heeds_iff heeds_of_occurs)

/-- The tree of a creation from which nothing but the created name is kept. -/
def madeTree (h : Heading) : Tree.Statement := .create ⟨.table, h.created, []⟩

section Copied

variable {o : Opening} {c : Copying} {t u : List Word} (named : t ≠ []) (copied : u ≠ [])
  {text : String} (tells : Tells text (o.pieces t ++ c.pieces u))
include named copied tells

/-- Outside of brackets any table may be copied. -/
theorem parse_copied_outside (outside : c ≠ .inBrackets) :
    parse text = .ok (madeTree (o.heading t c.next)) := by
  obtain ⟨visible, ls, lexed, worded⟩ := tells
  have first := startsWord_of_worded worded
  obtain ⟨os, cs, rfl, opens, copies⟩ := worded.split
  obtain ⟨gs, ts, guard, name, reads⟩ := readStatement_opening opens
  have read : readStatement (os ++ cs).length (os ++ cs) =
      .done (.createTable (o.heading t c.next) []) [] := by
    refine (reads ..).mpr ?_
    cases c with
    | like => exact newTable_like named copied guard name copies
    | clone => exact newTable_clone named copied guard name copies
    | inherits => exact newTable_inherits named copied guard name copies
    | inBrackets => exact absurd rfl outside
  rw [parse_of_lex lexed first visible read]
  rfl

/-- Of a creation that copies a table the created name is all that the tree holds. -/
theorem parse_copied {tree : Tree.Statement} (parsed : parse text = .ok tree) :
    tree = madeTree (o.heading t c.next) := by
  by_cases inside : c = .inBrackets
  · subst inside
    obtain ⟨_, ls, lexed, worded⟩ := tells
    obtain ⟨s, rest, read, lowered⟩ := reads_of_lex lexed (startsWord_of_worded worded) parsed
    obtain ⟨os, cs, rfl, opens, copies⟩ := worded.split
    obtain ⟨gs, ts, guard, name, reads⟩ := readStatement_opening opens
    obtain ⟨parts, rfl, plain⟩ := newTable_inBrackets named guard name copies ((reads ..).mp read)
    rw [lowerStatement, lowerExprs_of_queryless plain] at lowered
    cases lowered
    rfl
  · rw [parse_copied_outside named copied tells inside] at parsed
    cases parsed
    rfl

end Copied

/-! ### Other tables -/

/-- Two texts that create a table like another one, or as its clone, and are alike but for what
that other table is. -/
def Exchanges (o : Opening) (t u u' : List Word) (text text' : String) : Prop :=
  Text.isBlankText text' = false ∧ ∃ k front us us' rest, (k = .LIKE ∨ k = .CLONE) ∧
    Worded front (o.pieces t ++ [.keyword k]) ∧ Worded us (namePieces u) ∧
    Worded us' (namePieces u') ∧ Undotted rest ∧ lex text.toList = some (front ++ (us ++ rest)) ∧
    lex text'.toList = some (front ++ (us' ++ rest))

/-- The tree does not tell which table is copied, whatever follows. -/
theorem parse_exchanged {o : Opening} {t u u' : List Word} (named : t ≠ []) (copied : u ≠ [])
    (alike : u.length = u'.length) {text text' : String}
    (exchanges : Exchanges o t u u' text text') {tree : Tree.Statement}
    (parsed : parse text = .ok tree) : parse text' = .ok tree := by
  obtain ⟨visible, k, front, us, us', rest, kind, worded, source, source', ends, lexed, lexed'⟩ :=
    exchanges
  have copied' : u' ≠ [] := by
    rintro rfl
    exact copied (List.length_eq_zero_iff.mp alike)
  have size : us.length = us'.length := by
    rw [source.length_eq, source'.length_eq, length_namePieces, length_namePieces, alike]
  obtain ⟨os, ks, rfl, opens, word⟩ := worded.split
  obtain ⟨text, quoted, apart, _, rfl, nothing⟩ := word.keyword
  obtain rfl := nothing.nothing
  have first (ls : List Lexeme) : startsWord (os ++ ls) = true := by
    obtain ⟨_, _, _, _, rfl, _⟩ := opens.keyword
    rfl
  obtain ⟨gs, ts, guard, name, reads⟩ := readStatement_opening opens
  simp only [List.append_assoc, List.singleton_append] at lexed lexed'
  refine parse_of_same_reading lexed (first _) lexed' (first _) visible ?_ ?_ parsed
  · simp [size]
  · intro s left read
    refine (reads ..).mpr ?_
    have read := (reads ..).mp read
    rcases kind with rfl | rfl
    · exact newTable_like_other named copied guard name source copied' source' ends read
    · exact newTable_clone_other named copied guard name source copied' source' ends read

/-! ### Heeding -/

theorem heeds_madeTree_iff {p : Policy} {h : Heading} {relation : String} :
    Heeds p (madeTree h) relation ↔
      ∃ made, h.created = some made ∧ (made = relation ∨ p.forbids made = true) := by
  have references : (madeTree h).references = h.created.toList.map (⟨·, .write, .own⟩) := by
    simp [madeTree, Tree.Statement.references, Tree.Statement.mentions, Tree.queriesMentions]
  rw [heeds_iff, references]
  cases h.created <;> simp

/-- A text fills a new table from a query that draws on the relation. -/
def FillsFrom (text relation : String) : Prop :=
  ∃ h parts q, read text.toList = some [.createTable h parts] ∧
    .query q ∈ (exprsFound parts).placed ∧ Draws relation q

theorem heeds_of_fillsFrom {text relation : String} (fills : FillsFrom text relation)
    {tree : Tree.Statement} (parsed : parse text = .ok tree) (p : Policy) :
    Heeds p tree relation := by
  obtain ⟨h, parts, q, read, placed, draws⟩ := fills
  obtain ⟨s, again, lowered⟩ := parse_eq_ok parsed
  rw [read] at again
  cases again
  have kind : tree.keepsQueries = true := by
    obtain ⟨queries, _, made⟩ := except_bind_eq_ok.mp lowered
    cases made
    rfl
  obtain ⟨path, occurs⟩ : ∃ path, Tree.Occurs tree path .read relation :=
    occurs_of_draws lowered kind (List.mem_append_right _ placed) draws
  exact heeds_of_occurs occurs p

section Filled

variable {o : Opening} {f : Filling} {t u : List Word} (named : t ≠ []) (copied : u ≠ [])
  (takes : f.Takes u) {text : String} (tells : Tells text (o.pieces t ++ f.pieces u))
include named copied takes tells

theorem fillsFrom_of_tells : FillsFrom text (relationOf u) := by
  obtain ⟨_, ls, lexed, worded⟩ := tells
  have reads := readStatement_filled named copied takes worded
  exact ⟨_, _, f.query u, read_eq_single lexed (startsWord_of_worded worded) reads,
    List.mem_singleton.mpr rfl, draws_query f copied takes⟩

theorem parse_filled : ∃ tree, parse text = .ok tree := by
  obtain ⟨visible, ls, lexed, worded⟩ := tells
  have reads := readStatement_filled named copied takes worded
  rw [parse_of_lex lexed (startsWord_of_worded worded) visible reads]
  cases f <;> exact ⟨_, rfl⟩

end Filled

/-- **What a new table is filled from is heeded; what its definition is copied from is not.** The
table behind `AS TABLE` or `AS SELECT * FROM` is heeded, and whatever the query that fills a new
table draws on. A table that is copied with `LIKE`, `CLONE`, `INHERITS` or in brackets is heeded
exactly if the created name is its own or forbidden itself, and behind `LIKE` or `CLONE` the tree
does not tell which table it is. -/
theorem copied_heeded_iff (o : Opening) (t u : List Word) (named : t ≠ []) (copied : u ≠ []) :
    (∀ (f : Filling) (text : String), f.Takes u → Tells text (o.pieces t ++ f.pieces u) →
      ∃ tree, parse text = .ok tree ∧ ∀ p : Policy, Heeds p tree (relationOf u)) ∧
    (∀ (text relation : String), FillsFrom text relation → ∀ tree, parse text = .ok tree →
      ∀ p : Policy, Heeds p tree relation) ∧
    (∀ (c : Copying) (text : String), Tells text (o.pieces t ++ c.pieces u) →
      (c ≠ .inBrackets → ∃ tree, parse text = .ok tree) ∧
      ∀ tree, parse text = .ok tree → ∀ p : Policy, Heeds p tree (relationOf u) ↔
        ∃ made, (o.heading t c.next).created = some made ∧
          (made = relationOf u ∨ p.forbids made = true)) ∧
    ∀ (u' : List Word) (text text' : String), u.length = u'.length →
      Exchanges o t u u' text text' → ∀ tree, parse text = .ok tree → parse text' = .ok tree := by
  refine ⟨?filled, fun text relation fills tree => heeds_of_fillsFrom fills, ?copied, ?other⟩
  case filled =>
    intro f text takes tells
    obtain ⟨tree, parsed⟩ := parse_filled named copied takes tells
    have fills := fillsFrom_of_tells named copied takes tells
    exact ⟨tree, parsed, heeds_of_fillsFrom fills parsed⟩
  case copied =>
    intro c text tells
    refine ⟨fun outside => ⟨_, parse_copied_outside named copied tells outside⟩, ?_⟩
    intro tree parsed p
    rw [parse_copied named copied tells parsed]
    exact heeds_madeTree_iff
  case other =>
    intro u' text text' alike exchanges tree
    exact parse_exchanged named copied alike exchanges

/-! ### Copies of a forbidden table -/

theorem continuesWord_nil : ∀ c ∈ ([] : List Char), continuesWord c = true := List.forall_mem_nil _

/-- The bare identifier of one letter. -/
def letter (c : Char) (starts : Lexer.startsWord c = true) : Written :=
  .bare c [] starts continuesWord_nil

theorem starts_t : Lexer.startsWord 't' = true := rfl

theorem starts_x : Lexer.startsWord 'x' = true := rfl

def letterT : Written := letter 't' starts_t

def letterX : Written := letter 'x' starts_x

theorem word_letterT : letterT.word = ⟨"t", false, none⟩ :=
  (@spells_letter 't' 'T' starts_t rfl rfl).2.2

theorem word_letterX : letterX.word = ⟨"x", false, none⟩ :=
  (@spells_letter 'x' 'X' starts_x rfl rfl).2.2

/-- The words of `settings.x`. -/
def settingsX : List Word := [settings.word, letterX.word]

theorem word_settings : settings.word = ⟨"settings", false, some .SETTINGS⟩ := by
  decide +kernel

theorem relationOf_settingsX : relationOf settingsX = "settings.x" := by
  rw [settingsX, word_settings, word_letterX]
  decide

/-- A creation without more words than it needs. -/
def plainly : Opening := ⟨false, false, false⟩

theorem created_plainly (c : Copying) :
    (plainly.heading [letterT.word] c.next).created = some "t" := by
  rw [word_letterT]
  cases c <;> decide +kernel

/-- The lexemes of `CREATE TABLE t`, others being behind them. -/
def createT (ls : List Lexeme) : List Lexeme :=
  ⟨.word ⟨"CREATE", false, some .CREATE⟩, true⟩ :: ⟨.word ⟨"TABLE", false, some .TABLE⟩, true⟩ ::
    ⟨.word letterT.word, true⟩ :: ls

theorem lexes_createT (rest : List Char) {ls : List Lexeme} (more : Lexes none rest ls) :
    Lexes none ("CREATE TABLE t ".toList ++ rest) (createT ls) :=
  .fixed spells_CREATE (.fixed spells_TABLE (.written letterT (ends_space _) (.space more)))

theorem worded_createT {ls : List Lexeme} {ps : List Piece} (h : Worded ls ps) :
    Worded (createT ls) (plainly.pieces [letterT.word] ++ ps) :=
  .cons rfl (.cons rfl (.cons rfl h))

/-- The lexemes of a pair of words. -/
def pairLexemes (v w : Written) (apart : Bool) : List Lexeme :=
  [⟨.word v.word, apart⟩, ⟨.symbol .dot, false⟩, ⟨.word w.word, false⟩]

theorem lexes_pair (v w : Written) :
    Lexes none (v.chars ++ '.' :: w.chars) (pairLexemes v w true) := by
  have pair : Lexes none (v.chars ++ '.' :: (w.chars ++ [])) (pairLexemes v w true) :=
    Lexes.pair v w ends_nil (.nil _)
  rwa [List.append_nil] at pair

theorem worded_pair (v w : Written) (apart : Bool) :
    Worded (pairLexemes v w apart) (namePieces [v.word, w.word]) :=
  .cons rfl (.cons rfl (.cons rfl .nil))

theorem lex_like (v w : Written) :
    lex ("CREATE TABLE t LIKE ".toList ++ (v.chars ++ '.' :: w.chars)) =
      some (createT (⟨.word ⟨"LIKE", false, some .LIKE⟩, true⟩ :: pairLexemes v w true)) := by
  have text : "CREATE TABLE t LIKE ".toList = "CREATE TABLE t ".toList ++ "LIKE ".toList := by
    decide +kernel
  rw [text, List.append_assoc]
  exact lex_eq_some (lexes_createT _ (.fixed spells_LIKE (lexes_pair v w)))

theorem tells_like : Tells "CREATE TABLE t LIKE settings.x"
    (plainly.pieces [letterT.word] ++ Copying.like.pieces settingsX) :=
  ⟨by decide, _, lex_like settings letterX,
    worded_createT (.cons rfl (worded_pair settings letterX true))⟩

/-- The lexemes of a copy in brackets. -/
def inBracketsLexemes : List Lexeme :=
  createT (⟨.opening .round, true⟩ :: ⟨.word ⟨"LIKE", false, some .LIKE⟩, false⟩ ::
    (pairLexemes settings letterX true ++ [⟨.closing .round, false⟩]))

theorem lex_inBrackets :
    lex "CREATE TABLE t (LIKE settings.x)".toList = some inBracketsLexemes := by
  refine lex_eq_some (lexes_createT "(LIKE settings.x)".toList (.mark rfl ?_))
  refine .fixed spells_LIKE ?_
  exact Lexes.pair settings letterX (ends_cons [] (by decide)) (.mark rfl (.nil _))

theorem tells_inBrackets : Tells "CREATE TABLE t (LIKE settings.x)"
    (plainly.pieces [letterT.word] ++ Copying.inBrackets.pieces settingsX) := by
  refine ⟨by decide, _, lex_inBrackets, worded_createT (.cons rfl (.cons rfl ?_))⟩
  exact .cons rfl (.cons rfl (.cons rfl (.cons rfl .nil)))

theorem parse_inBrackets : parse "CREATE TABLE t (LIKE settings.x)" =
    .ok (madeTree (plainly.heading [letterT.word] "(")) := by
  have reads : readStatement inBracketsLexemes.length inBracketsLexemes =
      .done (.createTable (plainly.heading [letterT.word] "(") []) [] := by
    rw [inBracketsLexemes, createT, pairLexemes, word_settings, word_letterX, word_letterT]
    rfl
  rw [parse_of_lex lex_inBrackets rfl (by decide) reads]
  rfl

theorem tells_rows : Tells "CREATE TABLE t AS TABLE settings.x"
    (plainly.pieces [letterT.word] ++ Filling.rows.pieces settingsX) := by
  have lexed : lex "CREATE TABLE t AS TABLE settings.x".toList =
      some (createT (⟨.word ⟨"AS", false, some .AS⟩, true⟩ ::
        ⟨.word ⟨"TABLE", false, some .TABLE⟩, true⟩ :: pairLexemes settings letterX true)) := by
    refine lex_eq_some (lexes_createT "AS TABLE settings.x".toList ?_)
    exact .fixed spells_AS (.fixed spells_TABLE (lexes_pair settings letterX))
  refine ⟨by decide, _, lexed, worded_createT (.cons rfl (.cons rfl ?_))⟩
  exact worded_pair settings letterX true

theorem exchanges_like : Exchanges plainly [letterT.word] settingsX [letterX.word, letterT.word]
    "CREATE TABLE t LIKE settings.x" "CREATE TABLE t LIKE x.t" :=
  ⟨by decide, .LIKE, createT [⟨.word ⟨"LIKE", false, some .LIKE⟩, true⟩], _, _, [], .inl rfl,
    worded_createT (.cons rfl .nil), worded_pair settings letterX true,
    worded_pair letterX letterT true, undotted_nil, lex_like settings letterX,
    lex_like letterX letterT⟩

/-- A table in a forbidden schema is heeded where its rows are copied. Where its definition is,
it is heeded only if the new table is forbidden. -/
theorem settingsX_copied : [letterT.word] ≠ [] ∧ settingsX ≠ [] ∧
    (∃ tree, parse "CREATE TABLE t AS TABLE settings.x" = .ok tree ∧
      ∀ p : Policy, Heeds p tree "settings.x") ∧
    (∃ tree, parse "CREATE TABLE t LIKE settings.x" = .ok tree ∧
      parse "CREATE TABLE t LIKE x.t" = .ok tree ∧
      ∀ p : Policy, Heeds p tree "settings.x" ↔ p.forbids "t" = true) ∧
    ∃ tree, parse "CREATE TABLE t (LIKE settings.x)" = .ok tree ∧
      ∀ p : Policy, Heeds p tree "settings.x" ↔ p.forbids "t" = true := by
  have named : [letterT.word] ≠ [] := List.cons_ne_nil _ _
  have copied : settingsX ≠ [] := List.cons_ne_nil _ _
  obtain ⟨filled, _, definition, unseen⟩ :=
    copied_heeded_iff plainly [letterT.word] settingsX named copied
  have created (p : Policy) (c : Copying) :
      (∃ made, (plainly.heading [letterT.word] c.next).created = some made ∧
        (made = relationOf settingsX ∨ p.forbids made = true)) ↔ p.forbids "t" = true := by
    simp [created_plainly, relationOf_settingsX]
  obtain ⟨accepted, like⟩ := definition .like _ tells_like
  obtain ⟨_, inBrackets⟩ := definition .inBrackets _ tells_inBrackets
  refine ⟨named, copied, ?_, ?_, _, parse_inBrackets, ?_⟩
  · have rows := filled .rows _ (Nat.le_refl _) tells_rows
    rwa [relationOf_settingsX] at rows
  · obtain ⟨tree, parsed⟩ := accepted nofun
    refine ⟨tree, parsed, unseen _ _ _ (by rfl) exchanges_like tree parsed, fun p => ?_⟩
    rw [← relationOf_settingsX, like tree parsed p, created]
  · intro p
    rw [← relationOf_settingsX, inBrackets _ parse_inBrackets p, created]

/-- A copy of a table in a forbidden schema is accepted, and only the new table is found. -/
theorem settingsX_copied_unheeded : ∃ tree, parse "CREATE TABLE t LIKE settings.x" = .ok tree ∧
    ({} : Policy).forbids "settings.x" = true ∧
    ({} : Policy).extract tree = .ok ⟨[⟨"t", .write, .own⟩]⟩ := by
  have parsed := parse_copied_outside (c := .like) (List.cons_ne_nil _ _) (List.cons_ne_nil _ _)
    tells_like nofun
  rw [madeTree, created_plainly] at parsed
  have references : (Tree.Statement.create ⟨.table, some "t", []⟩).references =
      [⟨"t", .write, .own⟩] := rfl
  have free : ({} : Policy).forbids "t" = false := by decide +kernel
  refine ⟨_, parsed, by decide +kernel, extract_eq_ok.mpr ⟨?_, ?_⟩⟩
  · rw [references, List.find?_cons_of_neg (by simp [free]), List.find?_nil]
  · rw [references]
    rfl

end QueryGateway.Sql
