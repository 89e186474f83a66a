import QueryGateway.Proofs.Sql.Identifier
import QueryGateway.Sql.Lowering

/-! The name that a creation is known by.

What a statement creates is taken from its printed beginning, as the first word behind the
object word that is no modifier. If the words before it are printed whole, a quoted name in
a schema is found so (`created_eq_relation`), unless a backslash before a quote inside has
misled the printer. -/
namespace QueryGateway.Sql

open Ast

/-! ### Words -/

/-- A character that belongs to a word wherever it is printed. -/
def Letter (c : Char) : Prop := c ≠ '"' ∧ c ≠ '(' ∧ Text.isBlank c = false

instance (c : Char) : Decidable (Letter c) := inferInstanceAs (Decidable (_ ∧ _ ∧ _))

/-- Whether a text is a word of letters. -/
def isWord (w : String) : Bool := !w.toList.isEmpty && w.toList.all fun c => decide (Letter c)

theorem letters_of_isWord {w : String} (h : isWord w = true) :
    w.toList ≠ [] ∧ ∀ c ∈ w.toList, Letter c := by
  obtain ⟨filled, letters⟩ := Bool.and_eq_true_iff.mp h
  refine ⟨fun empty => ?_, fun c hc => of_decide_eq_true (List.all_eq_true.mp letters c hc)⟩
  rw [empty] at filled
  cases filled

theorem identifierWords_letters {w : List Char} (plain : ∀ c ∈ w, Letter c)
    (current rest : List Char) :
    identifierWords false current (w ++ rest) =
      identifierWords false (w.reverse ++ current) rest := by
  induction w generalizing current with
  | nil => rfl
  | cons c w ih =>
    obtain ⟨⟨quote, bracket, blank⟩, plain⟩ := List.forall_mem_cons.mp plain
    rw [List.cons_append, identifierWords, if_neg quote, if_neg (by simp [bracket]),
      if_neg (by simp [blank]), ih plain]
    simp

/-- A blank ends the word before it. -/
theorem identifierWords_space {current : List Char} (some : current ≠ []) (rest : List Char) :
    identifierWords false current (' ' :: rest) =
      current.reverse :: identifierWords false [] rest := by
  have blank : Text.isBlank ' ' = true := by decide
  rw [identifierWords, if_neg (by decide), if_neg (by decide), if_pos (by simp [blank]), finishWord,
    if_neg (by simpa using some)]
  rfl

/-- Words with blanks behind them. -/
theorem identifierWords_spaced {ws : List String}
    (plain : ∀ w ∈ ws, w.toList ≠ [] ∧ ∀ c ∈ w.toList, Letter c) (rest : List Char) :
    identifierWords false [] ((ws.flatMap fun w => w.toList ++ [' ']) ++ rest) =
      ws.map String.toList ++ identifierWords false [] rest := by
  induction ws with
  | nil => rfl
  | cons w ws ih =>
    obtain ⟨⟨some, letters⟩, plain⟩ := List.forall_mem_cons.mp plain
    rw [List.flatMap_cons, List.append_assoc, List.append_assoc, identifierWords_letters letters,
      List.append_nil, List.singleton_append, identifierWords_space (by simpa using some), ih plain,
      List.reverse_reverse]
    rfl

/-- A word with a character in it that no modifier has is no modifier. -/
theorem not_modifier_of_mark {mark : Char}
    (absent : ∀ m ∈ objectModifiers, mark.toUpper ∉ m.toList.map Char.toUpper) {w : List Char}
    (there : mark ∈ w) : objectModifiers.any (sameWord w) = false := by
  rw [List.any_eq_false]
  intro m hm same
  refine absent m hm ?_
  rw [← beq_iff_eq.mp same]
  exact List.mem_map_of_mem there

/-- What a creation's text has before the name. -/
def leading (words : List String) (object : String) (guards : List String) : List Char :=
  (["CREATE"] ++ words ++ [object] ++ guards).flatMap fun w => w.toList ++ [' ']

section Leading

variable {words guards : List String} {object : String}
  (known : object = "VIEW" ∨ object = "TABLE")
  (before : ∀ w ∈ words, (w.toList ≠ [] ∧ ∀ c ∈ w.toList, Letter c) ∧
    sameWord w.toList object = false)
  (guarded : ∀ w ∈ guards, w ∈ ["IF", "NOT", "EXISTS"])
include known before guarded

theorem identifierWords_leading (text : List Char) :
    identifierWords false [] (leading words object guards ++ text) =
      (["CREATE"] ++ words).map String.toList ++ object.toList ::
        (guards.map String.toList ++ identifierWords false [] text) := by
  have guards_letters : ∀ w ∈ ["IF", "NOT", "EXISTS"], isWord w = true := by decide
  have spaced : ∀ w ∈ ["CREATE"] ++ words ++ [object] ++ guards,
      w.toList ≠ [] ∧ ∀ c ∈ w.toList, Letter c := by
    intro w hw
    simp only [List.mem_append, List.mem_singleton] at hw
    rcases hw with ((rfl | hw) | rfl) | hw
    · exact letters_of_isWord (by decide)
    · exact (before w hw).1
    · rcases known with rfl | rfl <;> exact letters_of_isWord (by decide)
    · exact letters_of_isWord (guards_letters w (guarded w hw))
  refine (identifierWords_spaced spaced text).trans ?_
  simp only [List.map_append, List.map_cons, List.append_assoc, List.cons_append, List.nil_append]

/-- What is created is the first word behind what leads to it, unless that is a modifier. -/
theorem createdName_leading {text name : List Char} {more : List (List Char)}
    (words_text : identifierWords false [] text = name :: more)
    (new : objectModifiers.any (sameWord name) = false) :
    createdName (leading words object guards ++ text) object =
      some (String.ofList (stripQuotes name)) := by
  have apart : ∀ w ∈ (["CREATE"] ++ words).map String.toList, (!sameWord w object) = true := by
    intro w hw
    obtain ⟨m, hm, rfl⟩ := List.mem_map.mp hw
    rcases List.mem_append.mp hm with hm | hm
    · rw [List.mem_singleton.mp hm]
      rcases known with rfl | rfl <;> decide
    · rw [(before m hm).2]
      rfl
  have alike : sameWord object.toList object = true := by simp [sameWord]
  let creates (w : List Char) : Bool := !objectModifiers.any (sameWord w)
  have skipped : (guards.map String.toList).find? creates = none := by
    have modifier : ∀ m ∈ ["IF", "NOT", "EXISTS"], creates m.toList = false := by decide
    rw [List.find?_eq_none]
    intro w hw
    obtain ⟨m, hm, rfl⟩ := List.mem_map.mp hw
    rw [modifier m (guarded m hm)]
    decide
  have found : creates name = true := by simp [creates, new]
  rw [createdName, identifierWords_leading known before guarded, words_text,
    List.dropWhile_append_of_pos apart, List.dropWhile_cons_of_neg (by simp [alike])]
  show Option.map _ (List.find? creates _) = _
  rw [List.find?_append, skipped, Option.none_or, List.find?_cons_of_pos found]
  rfl

end Leading

/-! ### Quoted words -/

/-- A backslash stands before a double quote. -/
def Misleads (i : List Char) : Prop := ['\\', '"'] <:+: i

instance (i : List Char) : Decidable (Misleads i) := inferInstanceAs (Decidable (_ <:+: _))

theorem not_misleads_of_cons {c : Char} {i : List Char} (h : ¬ Misleads (c :: i)) : ¬ Misleads i :=
  mt List.infix_cons h

theorem ne_backslash_of_straight {previous : Char} {i : List Char}
    (straight : ¬ Misleads (previous :: '"' :: i)) : previous ≠ '\\' := by
  rintro rfl
  exact straight ⟨[], i, rfl⟩

/-- Two quotes inside a word leave the quotes around it open. -/
theorem identifierWords_quotes (current rest : List Char) :
    identifierWords true current ('"' :: '"' :: rest) =
      identifierWords true ('"' :: '"' :: current) rest := by
  rw [identifierWords, if_pos rfl, identifierWords, if_pos rfl]
  rfl

theorem identifierWords_quoted {c : Char} (other : c ≠ '"') (current rest : List Char) :
    identifierWords true current (c :: rest) = identifierWords true (c :: current) rest := by
  rw [identifierWords, if_neg other, if_neg (by simp), if_neg (by simp)]

/-- The text of an identifier is printed within its quotes. -/
theorem identifierWords_escaped {previous : Char} {i : List Char}
    (straight : ¬ Misleads (previous :: i)) (current rest : List Char) :
    identifierWords true current (escapeQuote '"' previous i ++ rest) =
      identifierWords true ((escapeQuote '"' previous i).reverse ++ current) rest := by
  induction previous, i using escapeQuote.induct '"' generalizing current with
  | case1 => rw [escapeQuote]; rfl
  | case2 previous c alone =>
    obtain ⟨rfl, _⟩ : c = '"' ∧ previous ≠ '\\' := by simpa using alone
    rw [escapeQuote, if_pos alone]
    exact identifierWords_quotes current rest
  | case3 previous c plain =>
    have other : c ≠ '"' := by
      rintro rfl
      exact plain (by simp [ne_backslash_of_straight straight])
    rw [escapeQuote, if_neg plain]
    exact identifierWords_quoted other current rest
  | case4 d more => exact absurd rfl (ne_backslash_of_straight straight)
  | case5 previous more other ih =>
    rw [escapeQuote, if_pos rfl, if_neg other, if_pos rfl, List.cons_append, List.cons_append,
      identifierWords_quotes, ih (not_misleads_of_cons (not_misleads_of_cons straight))]
    simp
  | case6 previous d more other single ih =>
    rw [escapeQuote, if_pos rfl, if_neg other, if_neg single, List.cons_append, List.cons_append,
      identifierWords_quotes, ih (not_misleads_of_cons straight)]
    simp
  | case7 previous c d more other ih =>
    rw [escapeQuote, if_neg other, List.cons_append, identifierWords_quoted other,
      ih (not_misleads_of_cons straight)]
    simp

/-! ### Headings -/

/-- The words of a heading are printed whole, and none before the object word is like it. -/
structure Tidy (h : Heading) : Prop where
  object : h.object = "VIEW" ∨ h.object = "TABLE"
  modifiers : ∀ m ∈ h.modifiers, (m.toList ≠ [] ∧ ∀ c ∈ m.toList, Letter c) ∧
    sameWord m.toList h.object = false

/-- The name of a table that is quoted, in a schema. -/
def inSchema (schema : Written) (i : List Char) : Name := [schema.ident, (Written.quoted i).ident]

theorem render_inSchema {schema : Written} (bare : schema.isQuoted = false) (i : List Char) :
    Name.render (inSchema schema i) =
      schema.value ++ '.' :: '"' :: escapeQuote '"' '\x00' i ++ ['"'] := by
  cases schema with
  | quoted _ => cases bare
  | bare first rest _ _ =>
    simp [inSchema, Name.render, Ident.render, Written.ident, Written.isQuoted, Written.value]

theorem identifierWords_inSchema {schema : Written} (bare : schema.isQuoted = false)
    (blankless : ∀ c ∈ schema.value, Text.isBlank c = false) {i : List Char}
    (straight : ¬ Misleads i) (next : List Char) :
    identifierWords false [] (Name.render (inSchema schema i) ++ ' ' :: next) =
      Name.render (inSchema schema i) :: identifierWords false [] next := by
  have letters : ∀ c ∈ schema.value ++ ['.'], Letter c := by
    intro c hc
    rcases List.mem_append.mp hc with hc | hc
    · have quote : '"' ∉ schema.value := not_mem_value_of_bare bare (by decide)
      have bracket : '(' ∉ schema.value := not_mem_value_of_bare bare (by decide)
      exact ⟨fun same => quote (same ▸ hc), fun same => bracket (same ▸ hc), blankless c hc⟩
    · rw [List.mem_singleton.mp hc]
      decide
  have straight' : ¬ Misleads ('\x00' :: i) := by
    intro misleads
    rcases List.infix_cons_iff.mp misleads with starts | misleads
    · exact absurd (List.cons_prefix_cons.mp starts).1 (by decide)
    · exact straight misleads
  have text : Name.render (inSchema schema i) ++ ' ' :: next = (schema.value ++ ['.']) ++
      '"' :: (escapeQuote '"' '\x00' i ++ '"' :: ' ' :: next) := by
    rw [render_inSchema bare]
    simp
  rw [text, identifierWords_letters letters, identifierWords, if_pos rfl, Bool.not_false,
    identifierWords_escaped straight', identifierWords, if_pos rfl, Bool.not_true,
    identifierWords_space (List.cons_ne_nil _ _), render_inSchema bare]
  simp

/-- The words between the object word and the name. -/
def guard (h : Heading) : List String := if h.guarded then ["IF", "NOT", "EXISTS"] else []

theorem render_eq (h : Heading) :
    h.render = leading h.modifiers h.object (guard h) ++
      (Name.render h.name ++ ' ' :: h.next.toList) :=
  List.append_assoc ..

theorem mem_guard {h : Heading} {w : String} (hw : w ∈ guard h) : w ∈ ["IF", "NOT", "EXISTS"] := by
  rw [guard] at hw
  split at hw
  · exact hw
  · cases hw

/-- A tidy heading creates the relation that it names. -/
theorem created_eq_relation {h : Heading} (tidy : Tidy h) {schema : Written}
    (bare : schema.isQuoted = false) (blankless : ∀ c ∈ schema.value, Text.isBlank c = false)
    {i : List Char} (straight : ¬ Misleads i) (named : h.name = inSchema schema i) :
    h.created = some (Name.relation (inSchema schema i)) := by
  have dot : '.' ∈ Name.render h.name := by
    rw [named, render_inSchema bare]
    simp
  have new : objectModifiers.any (sameWord (Name.render h.name)) = false :=
    not_modifier_of_mark (by decide) dot
  rw [named] at new
  rw [Heading.created, render_eq, named]
  exact createdName_leading tidy.object tidy.modifiers (fun _ => mem_guard)
    (identifierWords_inSchema bare blankless straight _) new

end QueryGateway.Sql
