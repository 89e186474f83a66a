import QueryGateway.Proofs.Sql.Lexing
import QueryGateway.Proofs.Sql.Lowering

/-! From the lexemes of a text to its tree.

A text whose lexemes are known is parsed by reading one statement from them
(`parse_of_lexes`), and what was parsed was read so (`reads_of_parse`). What a phrase read is
found by following the phrases it is put together from (`read_bind_eq_done`), each of which
leaves the end of what was there (`read_suffix`). -/
namespace QueryGateway.Sql

open Lexer

/-! ### Texts -/

/-- The statement that can be read from the front of a text is its first. -/
theorem read_of_first {cs : List Char} {ls rest : List Lexeme} {s : Ast.Statement}
    (lexed : lex cs = some ls) (reads : readStatement ls.length ls = .done s rest) :
    read cs = (readStatements ls.length ls.length true rest).map (s :: ·) := by
  rw [read, lexed, Option.bind_eq_bind, Option.bind_some, readStatements, if_neg (by decide),
    reads]
  · rintro rfl
    cases reads
  · rintro _ _ rfl
    cases reads

section Texts

variable {text : String} {ls : List Lexeme}

section Lexed

variable (lexed : lex text.toList = some ls) (first : Grammar.startsWord ls = true)
include lexed first

/-- A text that begins with a word is read as a statement. -/
theorem read_of_lex :
    read text.toList = match readStatement ls.length ls with
      | .done s rest => (readStatements ls.length ls.length true rest).map (s :: ·)
      | _ => none := by
  match ls, first with
  | ⟨.word w, apart⟩ :: ls, _ =>
    rw [read, lexed, Option.bind_eq_bind, Option.bind_some, readStatements]
    · rw [if_neg (by decide)]
      cases readStatement _ (⟨.word w, apart⟩ :: ls) <;> rfl
    · nofun
    · nofun

/-- What the lexemes of a text are read as, with none left, is the one statement in it. -/
theorem read_eq_single {s : Ast.Statement} (reads : readStatement ls.length ls = .done s []) :
    read text.toList = some [s] := by
  have ends : readStatements ls.length ls.length true [] = some [] := by
    cases ls with
    | nil => cases first
    | cons => rw [List.length_cons, readStatements]
  rw [read_of_first lexed reads, ends]
  rfl

/-- A text is parsed if its lexemes are read as a statement, with none left. -/
theorem parse_of_lex (visible : Text.isBlankText text = false) {s : Ast.Statement}
    (reads : readStatement ls.length ls = .done s []) : parse text = lowerStatement s := by
  rw [parse, visible, read_eq_single lexed first reads]
  rfl

/-- The one statement of a text stands at the front of its lexemes, and none follows. -/
theorem reads_of_single {s : Ast.Statement} (single : read text.toList = some [s]) :
    ∃ rest, readStatement ls.length ls = .done s rest ∧
      readStatements ls.length ls.length true rest = some [] := by
  rw [read_of_lex lexed first] at single
  cases reads : readStatement ls.length ls with
  | done s' rest =>
    rw [reads] at single
    obtain ⟨_, ends, same⟩ := Option.map_eq_some_iff.mp single
    cases same
    exact ⟨rest, rfl, ends⟩
  | mismatch =>
    rw [reads] at single
    cases single
  | refused =>
    rw [reads] at single
    cases single

/-- Whatever is parsed was read from the lexemes of the text. -/
theorem reads_of_lex {tree : Tree.Statement} (parsed : parse text = .ok tree) :
    ∃ s rest, readStatement ls.length ls = .done s rest ∧ lowerStatement s = .ok tree := by
  obtain ⟨s, single, lowered⟩ := parse_eq_ok parsed
  obtain ⟨rest, reads, _⟩ := reads_of_single lexed first single
  exact ⟨s, rest, reads, lowered⟩

/-- A text whose lexemes are read as those of another one has the same tree. -/
theorem parse_of_same_reading {text' : String} {ls' : List Lexeme}
    (lexed' : lex text'.toList = some ls') (first' : Grammar.startsWord ls' = true)
    (visible : Text.isBlankText text' = false) (size : ls.length = ls'.length)
    (same : ∀ s rest, readStatement ls.length ls = .done s rest →
      readStatement ls.length ls' = .done s rest) {tree : Tree.Statement}
    (parsed : parse text = .ok tree) : parse text' = .ok tree := by
  obtain ⟨s, single, lowered⟩ := parse_eq_ok parsed
  obtain ⟨rest, reads, ends⟩ := reads_of_single lexed first single
  have single' : read text'.toList = some [s] := by
    rw [read_of_lex lexed' first', ← size, same s rest reads]
    dsimp only
    rw [ends]
    rfl
  rw [parse, visible, single']
  exact lowered

end Lexed

section Lexes

variable (h : Lexes none text.toList ls) (first : Grammar.startsWord ls = true)
include h first

theorem parse_of_lexes (visible : ∃ c ∈ text.toList, Text.isBlank c = false)
    {s : Ast.Statement} (reads : readStatement ls.length ls = .done s []) :
    parse text = lowerStatement s :=
  parse_of_lex (lex_eq_some h) first (by simpa [Text.isBlankText] using visible) reads

theorem reads_of_parse {tree : Tree.Statement} (parsed : parse text = .ok tree) :
    ∃ s rest, readStatement ls.length ls = .done s rest ∧ lowerStatement s = .ok tree :=
  reads_of_lex (lex_eq_some h) first parsed

end Lexes

end Texts

/-! ### Phrases -/

/-- How the rules of a grammar are read. -/
abbrev Reader := (r : Rule) → Place → List Lexeme → Outcome r.Reading

/-- What a rule leaves is the end of what was there. -/
class Shrinks (calls : Reader) : Prop where
  suffix : ∀ {r place ls a rest}, calls r place ls = .done a rest → rest <:+ ls

section Phrases

variable {calls : Reader} {place : Place} {ls rest : List Lexeme} {α β : Type}

theorem read_bind_eq_done {p : Phrase α} {f : α → Phrase β} {b : β} :
    (p >>= f).read calls place ls = .done b rest ↔
      ∃ a mid, p.read calls place ls = .done a mid ∧
        (f a).read calls place mid = .done b rest := by
  show (Phrase.andThen p f).read calls place ls = .done b rest ↔ _
  rw [Phrase.read]
  cases p.read calls place ls with
  | done a mid =>
    constructor
    · intro h
      exact ⟨a, mid, rfl, h⟩
    · intro h
      obtain ⟨_, _, same, h⟩ := h
      cases same
      exact h
  | mismatch => simp
  | refused => simp

/-- Goes on behind what has been read. -/
theorem read_next {p : Phrase α} {f : α → Phrase β} {a : α} {mid : List Lexeme} {b : β}
    (h : (p >>= f).read calls place ls = .done b rest)
    (first : p.read calls place ls = .done a mid) :
    (f a).read calls place mid = .done b rest := by
  obtain ⟨_, _, again, h⟩ := read_bind_eq_done.mp h
  cases again.symm.trans first
  exact h

/-- What follows a phrase that reads something. -/
theorem read_bind_of_done {p : Phrase α} {f : α → Phrase β} {a : α} {mid : List Lexeme} {b : β}
    (first : p.read calls place ls = .done a mid)
    (h : (f a).read calls place mid = .done b rest) :
    (p >>= f).read calls place ls = .done b rest :=
  read_bind_eq_done.mpr ⟨a, mid, first, h⟩

theorem read_attempt_of_done {p : Phrase α} {a : α} (h : p.read calls place ls = .done a rest) :
    (Phrase.attempt p).read calls place ls = .done (some a) rest := by
  rw [Phrase.read, h]

theorem closing_eq_done {b : Bracket} {u : Unit}
    (h : (Grammar.closing b).read calls place ls = .done u rest) :
    ∃ l, ls = l :: rest ∧ l.token = .closing b := by
  cases ls with
  | nil => cases h
  | cons l ls =>
    simp only [Grammar.closing, Grammar.token, Phrase.read] at h
    split at h
    case h_1 accepted =>
      cases h
      exact ⟨l, rfl, by simpa using accepted⟩
    case h_2 => cases h

/-- What each turn of a loop keeps, the loop keeps. -/
theorem loopFrom_keeps {σ : Type} {step : σ → List Lexeme → Outcome (Option σ)}
    {I : σ → List Lexeme → Prop}
    (turn : ∀ {s ls s' rest}, I s ls → step s ls = .done (some s') rest → I s' rest)
    (stop : ∀ {s ls rest}, I s ls → step s ls = .done none rest → I s rest) {clock : List Lexeme}
    {s s' : σ} (start : I s ls) (h : Phrase.loopFrom step clock s ls = .done s' rest) :
    I s' rest := by
  induction clock generalizing s ls with
  | nil =>
    rw [Phrase.loopFrom] at h
    split at h
    case h_1 stopped =>
      cases h
      exact stop start stopped
    all_goals cases h
  | cons _ clock ih =>
    rw [Phrase.loopFrom] at h
    split at h
    case h_1 stopped =>
      cases h
      exact stop start stopped
    case h_2 turned => exact ih (turn start turned) h
    all_goals cases h

/-- Reading takes lexemes from the front and nowhere else. -/
theorem read_suffix [Shrinks calls] {p : Phrase α} {a : α}
    (h : p.read calls place ls = .done a rest) : rest <:+ ls := by
  induction p generalizing place ls rest with
  | give =>
    cases h
    exact List.suffix_rfl
  | miss => cases h
  | one f =>
    cases ls with
    | nil => cases h
    | cons l ls =>
      rw [Phrase.read] at h
      split at h
      · cases h
        exact List.suffix_cons ..
      · cases h
  | andThen p f ihp ihf =>
    obtain ⟨a, mid, first, h⟩ := read_bind_eq_done.mp h
    exact (ihf a h).trans (ihp first)
  | ahead f =>
    cases h
    exact List.suffix_rfl
  | attempt p ih =>
    rw [Phrase.read] at h
    split at h
    case h_1 found =>
      cases h
      exact ih found
    case h_2 =>
      cases h
      exact List.suffix_rfl
    case h_3 => cases h
  | fallback p q ihp ihq =>
    rw [Phrase.read] at h
    split at h
    case h_1 found =>
      cases h
      exact ihp found
    case h_2 missed =>
      split at h
      case h_1 found =>
        cases h
        exact ihq found
      case h_2 => exact (missed _ _ h).elim
  | loop start step ih =>
    refine loopFrom_keeps (I := fun _ left => left <:+ ls) ?_ ?_ List.suffix_rfl h
    · exact fun suffix turned => (ih _ turned).trans suffix
    · exact fun suffix stopped => (ih _ stopped).trans suffix
  | call r => exact Shrinks.suffix h
  | here =>
    cases h
    exact List.suffix_rfl
  | within there p ih => exact ih h

end Phrases

/-! ### Rules -/

section Rules

variable {grammar : (r : Rule) → Phrase r.Reading} {fuel levels : Nat} {r : Rule} {place : Place}
  {ls rest : List Lexeme} {a : r.Reading}

/-- What a rule reads, its phrase reads. -/
theorem phrase_of_rule (h : Rule.read grammar fuel levels r place ls = .done a rest) :
    ∃ fuel' levels', fuel' < fuel ∧
      (grammar r).read (Rule.read grammar fuel' levels') place ls = .done a rest := by
  cases fuel with
  | zero => cases h
  | succ fuel =>
    unfold Rule.read at h
    split at h
    · cases levels with
      | zero => cases h
      | succ levels => exact ⟨fuel, levels, Nat.lt_succ_self _, h⟩
    · exact ⟨fuel, levels, Nat.lt_succ_self _, h⟩

instance shrinks_rules (grammar : (r : Rule) → Phrase r.Reading) (fuel levels : Nat) :
    Shrinks (Rule.read grammar fuel levels) := by
  induction fuel using Nat.strongRecOn generalizing levels with
  | ind fuel ih =>
    constructor
    intro r place ls a rest h
    obtain ⟨fuel', levels', less, h⟩ := phrase_of_rule h
    have := ih fuel' less levels'
    exact read_suffix h

end Rules

end QueryGateway.Sql
