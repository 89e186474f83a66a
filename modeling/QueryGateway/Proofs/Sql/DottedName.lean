import QueryGateway.Proofs.Sql.CreatedName

/-! The name of a created object, read off any text that creates it.

The text is followed one character at a time, and a double quote switches whether blanks and
parentheses belong to a word. An inner quote is written twice and so switches back; hence a
part between quotes is one word with what is around it, whatever it holds, and the name is
found (`createdName_creationText`). Nothing is asked about how the text was printed. -/
namespace QueryGateway.Sql

/-- Whether a text is letters other than dots. -/
def isPlain (text : List Char) : Bool :=
  !text.isEmpty && text.all fun c => decide (Letter c) && c != '.'

/-- A part of a dotted name as it is written: a plain text, or any between double quotes, those
inside it twice. -/
inductive NamePart where
  | plain (text : List Char) (h : isPlain text = true)
  | quoted (text : List Char)

namespace NamePart

def render : NamePart → List Char
  | .plain text _ => text
  | .quoted text => '"' :: doubled text ++ ['"']

/-- The parts of a name with dots between them. -/
def nameText : List NamePart → List Char
  | [] => []
  | [p] => p.render
  | p :: rest => p.render ++ '.' :: nameText rest

/-- Whether a name is one plain word and that a modifier. -/
def isModifier : List NamePart → Bool
  | [.plain text _] => objectModifiers.any (sameWord text)
  | _ => false

end NamePart

open NamePart

/-- The text of a creation, up to its name and what follows that. -/
def creationText (words : List String) (object : String) (guarded : Bool) (parts : List NamePart)
    (rest : List Char) : List Char :=
  leading words object (if guarded then ["IF", "NOT", "EXISTS"] else []) ++
    (nameText parts ++ rest)

/-! ### One word -/

theorem letters_of_isPlain {text : List Char} (h : isPlain text = true) :
    text ≠ [] ∧ ∀ c ∈ text, Letter c := by
  obtain ⟨filled, letters⟩ := Bool.and_eq_true_iff.mp h
  constructor
  · rintro rfl
    cases filled
  · intro c hc
    exact of_decide_eq_true (Bool.and_eq_true_iff.mp (List.all_eq_true.mp letters c hc)).1

/-- Quotes that are written twice leave the quotes around them open. -/
theorem identifierWords_doubled (text current rest : List Char) :
    identifierWords true current (doubled text ++ rest) =
      identifierWords true ((doubled text).reverse ++ current) rest := by
  induction text generalizing current with
  | nil => rfl
  | cons c text ih =>
    by_cases quote : c = '"'
    · subst quote
      rw [doubled_quote, List.cons_append, List.cons_append, identifierWords_quotes, ih]
      simp
    · rw [doubled_other quote, List.cons_append, identifierWords_quoted quote, ih]
      simp

theorem identifierWords_render (p : NamePart) (current rest : List Char) :
    identifierWords false current (p.render ++ rest) =
      identifierWords false (p.render.reverse ++ current) rest := by
  cases p with
  | plain text h => exact identifierWords_letters (letters_of_isPlain h).2 current rest
  | quoted text =>
    have open_quote : (NamePart.quoted text).render ++ rest =
        '"' :: (doubled text ++ '"' :: rest) := by simp [render]
    rw [open_quote, identifierWords, if_pos rfl, Bool.not_false, identifierWords_doubled,
      identifierWords, if_pos rfl, Bool.not_true]
    simp [render]

/-- A dotted name belongs to one word. -/
theorem identifierWords_nameText (parts : List NamePart) (current rest : List Char) :
    identifierWords false current (nameText parts ++ rest) =
      identifierWords false ((nameText parts).reverse ++ current) rest := by
  induction parts using nameText.induct generalizing current with
  | case1 => rfl
  | case2 p => exact identifierWords_render p current rest
  | case3 p parts more ih =>
    have dot : ∀ c ∈ ['.'], Letter c := List.forall_mem_singleton.mpr (by decide)
    rw [nameText, List.append_assoc, List.cons_append, identifierWords_render,
      ← List.singleton_append, identifierWords_letters dot, ih]
    · simp
    · exact more

/-- The word ends where a blank or a parenthesis follows, or nothing. -/
theorem identifierWords_ends {current rest : List Char} (some : current ≠ [])
    (ends : ∀ c ∈ rest.head?, c = ' ' ∨ c = '(') :
    ∃ more, identifierWords false current rest = current.reverse :: more := by
  cases rest with
  | nil => exact ⟨[], by simp [identifierWords, finishWord, some]⟩
  | cons c rest =>
    rcases ends c rfl with rfl | rfl
    · exact ⟨_, identifierWords_space some rest⟩
    · exact ⟨[], by simp [identifierWords, finishWord, some]⟩

/-! ### The name -/

theorem nameText_ne_nil {parts : List NamePart} (filled : parts ≠ []) : nameText parts ≠ [] := by
  induction parts using nameText.induct with
  | case1 => exact absurd rfl filled
  | case2 p =>
    cases p with
    | plain text h => exact (letters_of_isPlain h).1
    | quoted text => exact List.cons_ne_nil _ _
  | case3 p parts more _ =>
    rw [nameText]
    · simp
    · exact more

/-- A name is a modifier only if it is one as a single plain word. -/
theorem not_modifier_nameText {parts : List NamePart} (new : isModifier parts = false) :
    objectModifiers.any (sameWord (nameText parts)) = false := by
  match parts with
  | [] => decide
  | [.plain text _] => exact new
  | [.quoted text] =>
    have quoteless : ∀ m ∈ objectModifiers, '"'.toUpper ∉ m.toList.map Char.toUpper := by decide
    exact not_modifier_of_mark quoteless List.mem_cons_self
  | p :: q :: rest =>
    have dot : '.' ∈ nameText (p :: q :: rest) := by simp [nameText]
    exact not_modifier_of_mark (by decide) dot

/-- Behind any words of which none is like the object word, with or without `IF NOT EXISTS`,
the name of a table or a view is found whole: its parts may hold anything between quotes. It
comes without its quotes. -/
theorem createdName_creationText {words : List String} {object : String} {guarded : Bool}
    {parts : List NamePart} {rest : List Char} (known : object = "TABLE" ∨ object = "VIEW")
    (before : ∀ w ∈ words, isWord w = true ∧ sameWord w.toList object = false)
    (filled : parts ≠ []) (new : isModifier parts = false)
    (ends : ∀ c ∈ rest.head?, c = ' ' ∨ c = '(') :
    createdName (creationText words object guarded parts rest) object =
      some (String.ofList (stripQuotes (nameText parts))) := by
  have leads : ∀ w ∈ words, (w.toList ≠ [] ∧ ∀ c ∈ w.toList, Letter c) ∧
      sameWord w.toList object = false := fun w hw =>
    ⟨letters_of_isWord (before w hw).1, (before w hw).2⟩
  have guards : ∀ w ∈ if guarded then ["IF", "NOT", "EXISTS"] else [],
      w ∈ ["IF", "NOT", "EXISTS"] := by
    cases guarded
    · exact fun w hw => absurd hw List.not_mem_nil
    · exact fun w hw => hw
  have open_word : (nameText parts).reverse ≠ [] := by simpa using nameText_ne_nil filled
  obtain ⟨more, ended⟩ := identifierWords_ends open_word ends
  have found : identifierWords false [] (nameText parts ++ rest) = nameText parts :: more := by
    rw [identifierWords_nameText, List.append_nil, ended, List.reverse_reverse]
  exact createdName_leading known.symm leads guards found (not_modifier_nameText new)

/-- A name with blanks, parentheses, quotes and the object word between its quotes. -/
def bracketedName : List NamePart :=
  [.plain "settings".toList (by decide), .quoted "AS (TABLE) \x22x\x22 y".toList]

def bracketedCreation : List Char :=
  creationText ["OR", "REPLACE", "TEMP"] "TABLE" true bracketedName "(id INT)".toList

theorem createdName_bracketed :
    String.ofList bracketedCreation = "CREATE OR REPLACE TEMP TABLE IF NOT EXISTS " ++
        "settings.\x22AS (TABLE) \x22\x22x\x22\x22 y\x22(id INT)" ∧
      createdName bracketedCreation "TABLE" = some "settings.AS (TABLE) x y" := by
  refine ⟨by decide +kernel, ?_⟩
  have bracket : ∀ c ∈ "(id INT)".toList.head?, c = ' ' ∨ c = '(' := by
    rintro c ⟨⟩
    exact .inr rfl
  rw [bracketedCreation,
    createdName_creationText (.inl rfl) (by decide) (by decide) (by decide) bracket]
  decide +kernel

end QueryGateway.Sql
