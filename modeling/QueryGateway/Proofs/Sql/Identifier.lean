import QueryGateway.Sql.Lexer
import QueryGateway.Sql.Name

/-! Identifiers as they are written, and the relations that they name.

A relation is named by an identifier as it prints, without its quotes; for an identifier in
quotes these are the quotes around it and those inside (`relation_ident`). -/
namespace QueryGateway.Sql

open Lexer

/-! ### Identifiers -/

/-- An identifier as it is written: bare, or between double quotes. -/
inductive Written where
  | bare (first : Char) (rest : List Char) (starts : startsWord first = true)
      (continues : ∀ c ∈ rest, continuesWord c = true)
  | quoted (text : List Char)

/-- Text with every double quote written twice. -/
def doubled (cs : List Char) : List Char := cs.flatMap fun c => if c = '"' then [c, c] else [c]

theorem doubled_quote (cs : List Char) : doubled ('"' :: cs) = '"' :: '"' :: doubled cs := rfl

theorem doubled_other {c : Char} (other : c ≠ '"') (cs : List Char) :
    doubled (c :: cs) = c :: doubled cs := by
  rw [doubled, List.flatMap_cons, if_neg other]
  rfl

namespace Written

/-- The identifier in a text. -/
def chars : Written → List Char
  | .bare first rest _ _ => first :: rest
  | .quoted text => '"' :: doubled text ++ ['"']

/-- What the identifier says. -/
def value : Written → List Char
  | .bare first rest _ _ => first :: rest
  | .quoted text => text

def isQuoted : Written → Bool
  | .bare .. => false
  | .quoted _ => true

/-- The word that the identifier is. -/
def word : Written → Word
  | .bare first rest _ _ => .bare (first :: rest)
  | .quoted text => .delimited text

/-- The identifier as the grammar knows it. -/
def ident (w : Written) : Ident :=
  ⟨String.ofList w.value, if w.isQuoted then some '"' else none⟩

theorem word_eq (w : Written) (plain : w.word.keyword = none) :
    w.word = ⟨String.ofList w.value, w.isQuoted, none⟩ := by
  cases w with
  | bare first rest _ _ => exact congrArg (Word.mk _ _) plain
  | quoted text => rfl

end Written

/-! ### Names without quotes -/

theorem stripQuotes_quote (cs : List Char) : stripQuotes ('"' :: cs) = stripQuotes cs := rfl

theorem stripQuotes_append (cs ds : List Char) :
    stripQuotes (cs ++ ds) = stripQuotes cs ++ stripQuotes ds :=
  List.filter_append ..

theorem stripQuotes_cons (c : Char) {cs ds : List Char} (h : stripQuotes cs = stripQuotes ds) :
    stripQuotes (c :: cs) = stripQuotes (c :: ds) := by
  rw [← List.singleton_append, stripQuotes_append, h, ← stripQuotes_append,
    List.singleton_append]

theorem mem_stripQuotes {c : Char} (h : c ≠ '"' ∧ c ≠ '\x60') {cs : List Char} :
    c ∈ stripQuotes cs ↔ c ∈ cs := by
  simp [stripQuotes, h]

/-- A quote that is written twice is taken off like a single one. -/
theorem stripQuotes_escapeQuote (previous : Char) (cs : List Char) :
    stripQuotes (escapeQuote '"' previous cs) = stripQuotes cs := by
  induction previous, cs using escapeQuote.induct '"' with
  | case1 => rw [escapeQuote]
  | case2 previous c alone =>
    obtain ⟨rfl, _⟩ : c = '"' ∧ previous ≠ '\\' := by simpa using alone
    rw [escapeQuote, if_pos alone]
    rfl
  | case3 previous c plain => rw [escapeQuote, if_neg plain]
  | case4 d rest ih =>
    rw [escapeQuote, if_pos rfl, if_pos rfl]
    exact ih
  | case5 previous rest other ih =>
    rw [escapeQuote, if_pos rfl, if_neg other, if_pos rfl]
    exact ih
  | case6 previous d rest other single ih =>
    rw [escapeQuote, if_pos rfl, if_neg other, if_neg single]
    exact ih
  | case7 previous c d rest plain ih =>
    rw [escapeQuote, if_neg plain]
    exact stripQuotes_cons c ih

/-- The relation that an unqualified name refers to is what the name says, without quotes. -/
theorem relation_ident (w : Written) :
    Name.relation [w.ident] = String.ofList (stripQuotes w.value) := by
  cases w with
  | bare first rest _ _ =>
    simp [Name.relation, Name.render, Ident.render, Written.ident, Written.isQuoted,
      Written.value]
  | quoted text =>
    have render : Name.render [Written.ident (.quoted text)] =
        '"' :: escapeQuote '"' '\x00' text ++ ['"'] := by
      simp [Name.render, Ident.render, Written.ident, Written.isQuoted, Written.value]
    rw [Name.relation, render, List.cons_append, stripQuotes_quote, stripQuotes_append,
      stripQuotes_escapeQuote]
    show String.ofList (stripQuotes text ++ []) = _
    rw [List.append_nil]
    rfl

/-! ### Bare identifiers -/

section Bare

variable {w : Written} (bare : w.isQuoted = false)
include bare

/-- A character that words do not hold is in no bare identifier. -/
theorem not_mem_value_of_bare {c : Char}
    (h : startsWord c = false ∧ continuesWord c = false) : c ∉ w.value := by
  cases w with
  | quoted _ => cases bare
  | bare first rest starts continues =>
    intro hc
    rcases List.mem_cons.mp hc with rfl | hc
    · exact absurd (starts.symm.trans h.1) (by decide)
    · exact absurd ((continues c hc).symm.trans h.2) (by decide)

theorem stripQuotes_of_bare : stripQuotes w.value = w.value := by
  have double : '"' ∉ w.value := not_mem_value_of_bare bare (by decide)
  have back : '\x60' ∉ w.value := not_mem_value_of_bare bare (by decide)
  refine List.filter_eq_self.mpr fun c hc => ?_
  rw [Bool.and_eq_true, decide_eq_true_eq, decide_eq_true_eq]
  exact ⟨fun same => double (same ▸ hc), fun same => back (same ▸ hc)⟩

end Bare

end QueryGateway.Sql
