import Mathlib.Data.List.Forall2
import QueryGateway.Proofs.Sql.Unbracketed

/-! What a text says, whatever stands between its lexemes.

Keywords are the same in letters of any case, and blanks and comments do not count. So a
text is told by `Piece`s: `Worded` that it consists of them is all that is known of its
lexemes. A name is said as words with dots between them, and read as far as its dots go
(`read_name`). -/
namespace QueryGateway.Sql

open Phrase Grammar Ast

/-- A piece of a text: a keyword, or a certain token. -/
inductive Piece where
  | keyword (k : Keyword)
  | token (t : Token)

/-- Whether a lexeme is the piece. -/
def Piece.Fits (l : Lexeme) : Piece → Prop
  | .keyword k => l.token.keyword = some k
  | .token t => l.token = t

/-- Lexemes that are the pieces, one by one. -/
def Worded (ls : List Lexeme) (ps : List Piece) : Prop := List.Forall₂ Piece.Fits ls ps

/-- A text, not blank, whose lexemes are the pieces. -/
def Tells (text : String) (ps : List Piece) : Prop :=
  Text.isBlankText text = false ∧ ∃ ls, lex text.toList = some ls ∧ Worded ls ps

namespace Worded

variable {ls : List Lexeme} {ps qs : List Piece}

theorem split (h : Worded ls (ps ++ qs)) :
    ∃ front back, ls = front ++ back ∧ Worded front ps ∧ Worded back qs :=
  ⟨_, _, (List.take_append_drop ps.length ls).symm, List.forall₂_take_append ls ps qs h,
    List.forall₂_drop_append ls ps qs h⟩

theorem keyword {k : Keyword} (h : Worded ls (.keyword k :: ps)) :
    ∃ text quoted apart rest, ls = ⟨.word ⟨text, quoted, some k⟩, apart⟩ :: rest ∧
      Worded rest ps := by
  obtain ⟨⟨t, apart⟩, rest, fits, worded, rfl⟩ := List.forall₂_cons_right_iff.mp h
  cases t with
  | word w =>
    obtain ⟨text, quoted, k'⟩ := w
    obtain rfl : k' = some k := fits
    exact ⟨text, quoted, apart, rest, rfl, worded⟩
  | _ => cases fits

theorem token {t : Token} (h : Worded ls (.token t :: ps)) :
    ∃ apart rest, ls = ⟨t, apart⟩ :: rest ∧ Worded rest ps := by
  obtain ⟨⟨t', apart⟩, rest, fits, worded, rfl⟩ := List.forall₂_cons_right_iff.mp h
  obtain rfl : t' = t := fits
  exact ⟨apart, rest, rfl, worded⟩

theorem nothing (h : Worded ls []) : ls = [] := List.forall₂_nil_right_iff.mp h

theorem length_eq (h : Worded ls ps) : ls.length = ps.length := List.Forall₂.length_eq h

theorem exists_of_mem (h : Worded ls ps) {l : Lexeme} (hl : l ∈ ls) : ∃ p ∈ ps, p.Fits l := by
  induction h with
  | nil => cases hl
  | cons fits _ ih =>
    rcases List.mem_cons.mp hl with rfl | hl
    · exact ⟨_, List.mem_cons_self .., fits⟩
    · obtain ⟨p, hp, fits⟩ := ih hl
      exact ⟨p, List.mem_cons_of_mem _ hp, fits⟩

end Worded

/-! ### Loops -/

/-- The turns of a loop, each but the last of which takes something. -/
inductive Turns {σ : Type} (step : σ → List Lexeme → Outcome (Option σ)) :
    σ → List Lexeme → σ → List Lexeme → Prop
  | stop {s : σ} {ls rest : List Lexeme} (h : step s ls = .done none rest) :
      Turns step s ls s rest
  | turn {s s' last : σ} {ls mid rest : List Lexeme} (h : step s ls = .done (some s') mid)
      (shorter : mid.length < ls.length) (more : Turns step s' mid last rest) :
      Turns step s ls last rest

theorem Turns.loopFrom {σ : Type} {step : σ → List Lexeme → Outcome (Option σ)} {s last : σ}
    {clock ls rest : List Lexeme} (h : Turns step s ls last rest)
    (enough : ls.length ≤ clock.length) :
    Phrase.loopFrom step clock s ls = .done last rest := by
  induction h generalizing clock with
  | stop h => rw [Phrase.loopFrom, h]
  | turn h shorter _ ih =>
    cases clock with
    | nil => exact absurd (Nat.lt_of_lt_of_le shorter enough) (Nat.not_lt_zero _)
    | cons c clock =>
      rw [Phrase.loopFrom, h]
      exact ih (Nat.le_of_lt_succ (Nat.lt_of_lt_of_le shorter enough))

theorem Turns.read_loop {σ : Type} {calls : Reader} {place : Place} {s last : σ}
    {step : σ → Phrase (Option σ)} {ls rest : List Lexeme}
    (h : Turns (fun s => (step s).read calls place) s ls last rest) :
    (loop s step).read calls place ls = .done last rest :=
  h.loopFrom (Nat.le_refl _)

/-! ### Names -/

/-- The identifier that a word is. -/
def Word.ident (w : Word) : Ident := ⟨w.text, if w.quoted then some '"' else none⟩

/-- What the words behind the first one of a name add to it. -/
def furtherPieces (n : List Word) : List Piece :=
  n.flatMap fun w => [.token (.symbol .dot), .token (.word w)]

/-- A name: words with dots between them. -/
def namePieces : List Word → List Piece
  | [] => []
  | w :: n => .token (.word w) :: furtherPieces n

/-- The relation that the words of a name refer to. -/
def relationOf (n : List Word) : String := Name.relation (n.map Word.ident)

theorem length_furtherPieces (n : List Word) : (furtherPieces n).length = 2 * n.length := by
  induction n with
  | nil => rfl
  | cons w n ih =>
    show (furtherPieces n).length + 2 = 2 * (n.length + 1)
    omega

theorem length_namePieces (n : List Word) : (namePieces n).length = 2 * n.length - 1 := by
  cases n with
  | nil => rfl
  | cons w n =>
    rw [namePieces, List.length_cons, List.length_cons, length_furtherPieces]
    omega

/-- No bracket is part of a name. -/
theorem bracketless_of_name {n : List Word} {ls : List Lexeme} (h : Worded ls (namePieces n)) :
    Bracketless ls := by
  have pieces : ∀ p ∈ namePieces n, p = .token (.symbol .dot) ∨ ∃ w, p = .token (.word w) := by
    cases n with
    | nil => exact List.forall_mem_nil _
    | cons w n =>
      simp only [namePieces, furtherPieces, List.mem_cons, List.mem_flatMap]
      grind
  intro l hl
  obtain ⟨p, hp, fits⟩ := h.exists_of_mem hl
  rcases pieces p hp with rfl | ⟨w, rfl⟩
  · have dot : l.token = .symbol .dot := fits
    simp [dot]
  · have word : l.token = .word w := fits
    simp [word]

/-- What does not begin with a dot. -/
def Undotted (ls : List Lexeme) : Prop := ∀ l, ls.head? = some l → l.token ≠ .symbol .dot

theorem undotted_nil : Undotted [] := fun _ first => nomatch first

theorem undotted_cons {l : Lexeme} {rest : List Lexeme} (other : l.token ≠ .symbol .dot) :
    Undotted (l :: rest) := by
  intro l' first
  cases first
  exact other

section Names

variable {calls : Reader} {place : Place} {ls rest : List Lexeme}

theorem read_hasMark_of_undotted (h : Undotted rest) :
    (hasMark .dot).read calls place rest = .done false rest := by
  cases rest with
  | nil => rfl
  | cons l rest =>
    have other : l.token ≠ .symbol .dot := h l rfl
    have none : (attempt (mark .dot)).read calls place (l :: rest) = .done none (l :: rest) := by
      simp [Phrase.read, mark, token, other]
    exact read_bind_of_done none rfl

theorem read_ident (w : Word) (apart : Bool) :
    ident.read calls place (⟨.word w, apart⟩ :: rest) = .done w.ident rest := rfl

/-- The next part of a name, if there is one. -/
def nextPart : Phrase (Option Ident) := do
  if ← hasMark .dot then return some (← ident) else return none

theorem turns_further {n : List Word} (worded : Worded ls (furtherPieces n))
    (ends : Undotted rest) (found : List Ident) :
    Turns (fun found => (do return (← nextPart).map (· :: found)).read calls place) found
      (ls ++ rest) ((n.map Word.ident).reverse ++ found) rest := by
  induction n generalizing ls found with
  | nil =>
    obtain rfl := worded.nothing
    have none : nextPart.read calls place rest = .done none rest :=
      read_bind_of_done (read_hasMark_of_undotted ends) rfl
    exact .stop (read_bind_of_done none rfl)
  | cons w n ih =>
    obtain ⟨_, _, rfl, behind⟩ := worded.token
    obtain ⟨_, ls, rfl, further⟩ := behind.token
    have next := ih further (w.ident :: found)
    rw [List.map_cons, List.reverse_cons, List.append_assoc]
    exact .turn rfl (Nat.lt_succ_of_lt (Nat.lt_succ_self _)) next

/-- A name is read as far as its dots go. -/
theorem read_name {n : List Word} (named : n ≠ []) (worded : Worded ls (namePieces n))
    (ends : Undotted rest) :
    name.read calls place (ls ++ rest) = .done (n.map Word.ident) rest := by
  obtain ⟨w, n, rfl⟩ := List.exists_cons_of_ne_nil named
  obtain ⟨_, ls, rfl, further⟩ := worded.token
  have turns : Turns (fun found => (do return (← nextPart).map (· :: found)).read calls place) []
      (ls ++ rest) ((n.map Word.ident).reverse ++ []) rest := turns_further further ends []
  have parts : (series nextPart).read calls place (ls ++ rest) = .done (n.map Word.ident) rest := by
    refine read_bind_of_done turns.read_loop ?_
    rw [List.append_nil, List.reverse_reverse]
    rfl
  refine read_bind_of_done (read_ident w _) ?_
  exact read_bind_of_done parts rfl

/-- So is a name that nothing follows. -/
theorem read_name_alone {n : List Word} (named : n ≠ []) (worded : Worded ls (namePieces n)) :
    name.read calls place ls = .done (n.map Word.ident) [] := by
  have read : name.read calls place (ls ++ []) = .done (n.map Word.ident) [] :=
    read_name named worded undotted_nil
  rwa [List.append_nil] at read

end Names

end QueryGateway.Sql
