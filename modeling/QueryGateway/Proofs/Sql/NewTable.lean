import QueryGateway.Proofs.Sql.Wording

/-! Tables that are made from the definition of another one.

Behind the name of a new table the grammar reads which table it is like, the clone of, or
the heir of, and keeps no part of that (`newTable_like`, `newTable_clone`,
`newTable_inherits`). Between brackets it takes `LIKE` for the name of a column, of which the
other table is the type; no query comes out of that (`newTable_inBrackets`). -/
namespace QueryGateway.Sql

open Phrase Grammar Ast

/-! ### What creations say -/

/-- What a creation of a table says about it before its name. -/
structure Opening where
  replaces : Bool
  temporary : Bool
  guarded : Bool

namespace Opening

/-- What stands between `CREATE` and `TABLE`. -/
def modifiers (o : Opening) : List Piece :=
  (if o.replaces then [.keyword .OR, .keyword .REPLACE] else []) ++
    if o.temporary then [.keyword .TEMPORARY] else []

/-- What stands behind `TABLE`. -/
def guard (o : Opening) : List Piece :=
  if o.guarded then [.keyword .IF, .keyword .NOT, .keyword .EXISTS] else []

/-- The creation of a table, up to its name. -/
def pieces (o : Opening) (t : List Word) : List Piece :=
  .keyword .CREATE :: (o.modifiers ++ .keyword .TABLE :: (o.guard ++ namePieces t))

/-- What the grammar makes of the words before `TABLE`. -/
def prelude (o : Opening) : Prelude := ⟨o.replaces, false, none, false, o.temporary, []⟩

end Opening

/-- The ways to make a table from the definition of another one. -/
inductive Copying where
  | like | clone | inherits | inBrackets
  deriving DecidableEq

namespace Copying

/-- What is said behind the name of the new table. -/
def pieces (u : List Word) : Copying → List Piece
  | like => .keyword .LIKE :: namePieces u
  | clone => .keyword .CLONE :: namePieces u
  | inherits =>
    .keyword .INHERITS :: .token (.opening .round) :: (namePieces u ++ [.token (.closing .round)])
  | inBrackets =>
    .token (.opening .round) :: .keyword .LIKE :: (namePieces u ++ [.token (.closing .round)])

/-- What is printed behind the name of the new table. -/
def next : Copying → String
  | like => "LIKE"
  | clone => "CLONE"
  | inherits | inBrackets => "("

end Copying

/-- The beginning of the creation as it prints, `next` being the word behind the name. -/
def Opening.heading (o : Opening) (t : List Word) (next : String) : Heading :=
  ⟨o.prelude.ofTable, "TABLE", o.guarded, t.map Word.ident, next⟩

/-! ### The opening -/

theorem startsWord_of_worded {o : Opening} {t : List Word} {ls : List Lexeme} {ps : List Piece}
    (worded : Worded ls (o.pieces t ++ ps)) : startsWord ls = true := by
  obtain ⟨_, _, _, _, rfl, _⟩ := Worded.keyword worded
  rfl

theorem readStatement_eq (size : Nat) (ls : List Lexeme) :
    readStatement size ls = statementRule.read (Rule.read phraseOf (size + 399) 49) .free ls := by
  show Rule.read phraseOf ((size + 399) + 1) (49 + 1) .statement .free ls = _
  rw [Rule.read]
  rfl

section Opening

variable {calls : Reader} {o : Opening} {ls rest : List Lexeme} {text : String}
  {quoted apart : Bool}

theorem read_creationPrelude (worded : Worded ls o.modifiers) :
    creationPrelude.read calls .free (ls ++ ⟨.word ⟨text, quoted, some .TABLE⟩, apart⟩ :: rest) =
      .done o.prelude (⟨.word ⟨text, quoted, some .TABLE⟩, apart⟩ :: rest) := by
  obtain ⟨replaces, temporary, guarded⟩ := o
  obtain ⟨first, second, rfl, replaced, lives⟩ := worded.split
  have life : second = [] ∧ temporary = false ∨ ∃ text quoted apart,
      second = [⟨.word ⟨text, quoted, some .TEMPORARY⟩, apart⟩] ∧ temporary = true := by
    cases temporary with
    | false => exact .inl ⟨lives.nothing, rfl⟩
    | true =>
      obtain ⟨_, _, _, _, rfl, nothing⟩ := lives.keyword
      obtain rfl := nothing.nothing
      exact .inr ⟨_, _, _, rfl, rfl⟩
  cases replaces with
  | false =>
    obtain rfl := replaced.nothing
    rcases life with ⟨rfl, rfl⟩ | ⟨_, _, _, rfl, rfl⟩ <;> rfl
  | true =>
    obtain ⟨_, _, _, _, rfl, behind⟩ := replaced.keyword
    obtain ⟨_, _, _, _, rfl, nothing⟩ := behind.keyword
    obtain rfl := nothing.nothing
    rcases life with ⟨rfl, rfl⟩ | ⟨_, _, _, rfl, rfl⟩ <;> rfl

theorem creation_table {prelude : Prelude} {s : Statement} {left : List Lexeme}
    (h : creationPrelude.read calls .free ls =
      .done prelude (⟨.word ⟨text, quoted, some .TABLE⟩, apart⟩ :: rest)) :
    creation.read calls .free ls = .done s left ↔
      (newTable prelude).read calls .free rest = .done s left := by
  constructor
  · intro created
    obtain ⟨made, _, replaced, kept⟩ := read_bind_eq_done.mp (read_next created h)
    obtain ⟨table, _, read, found⟩ := read_bind_eq_done.mp (read_next replaced rfl)
    cases found
    cases kept
    exact read
  · intro read
    refine read_bind_of_done h (read_bind_of_done (a := some s) ?_ rfl)
    exact read_bind_of_done (a := true) rfl (read_bind_of_done read rfl)

/-- A statement that opens so is read as a new table. -/
theorem readStatement_opening {t : List Word} (worded : Worded ls (o.pieces t)) :
    ∃ gs ts, Worded gs o.guard ∧ Worded ts (namePieces t) ∧ ∀ size fs s left,
      readStatement size (ls ++ fs) = .done s left ↔
        (newTable o.prelude).read (Rule.read phraseOf (size + 399) 49) .free (gs ++ (ts ++ fs)) =
          .done s left := by
  obtain ⟨_, _, _, behind, rfl, creates⟩ := worded.keyword
  obtain ⟨ms, tables, rfl, modified, makes⟩ := creates.split
  obtain ⟨_, _, _, behind, rfl, guards⟩ := makes.keyword
  obtain ⟨gs, ts, rfl, guarded, named⟩ := guards.split
  refine ⟨gs, ts, guarded, named, fun size fs s left => ?_⟩
  rw [readStatement_eq, List.cons_append, List.append_assoc, List.cons_append, List.append_assoc]
  exact creation_table (read_creationPrelude modified)

/-- `IF NOT EXISTS` is read where it stands; in front of a name that it does not precede it is
not taken for part of one. -/
theorem read_guard {t : List Word} (named : t ≠ []) {gs ts : List Lexeme}
    (guard : Worded gs o.guard) (name : Worded ts (namePieces t)) {l : Lexeme}
    (next : l.token.keyword ≠ some .NOT) :
    ifNotExists.read calls .free (gs ++ (ts ++ l :: rest)) = .done o.guarded (ts ++ l :: rest) := by
  obtain ⟨replaces, temporary, guarded⟩ := o
  cases guarded with
  | true =>
    obtain ⟨_, _, _, _, rfl, behind⟩ := guard.keyword
    obtain ⟨_, _, _, _, rfl, last⟩ := behind.keyword
    obtain ⟨_, _, _, _, rfl, nothing⟩ := last.keyword
    obtain rfl := nothing.nothing
    rfl
  | false =>
    obtain rfl := guard.nothing
    obtain ⟨w, t, rfl⟩ := List.exists_cons_of_ne_nil named
    obtain ⟨apart, ts, rfl, further⟩ := name.token
    -- The second lexeme is no `NOT`: it is a dot of the name, or what follows the name.
    obtain ⟨m, more, same, other⟩ : ∃ m more, ts ++ l :: rest = m :: more ∧
        m.token.keyword ≠ some .NOT := by
      cases t with
      | nil =>
        obtain rfl := further.nothing
        exact ⟨l, rest, rfl, next⟩
      | cons w' t =>
        obtain ⟨_, _, rfl, _⟩ := further.token
        exact ⟨_, _, rfl, nofun⟩
    have none : (attempt (expectAll [.IF, .NOT, .EXISTS])).read calls .free
        (⟨.word w, apart⟩ :: (ts ++ l :: rest)) =
          .done none (⟨.word w, apart⟩ :: (ts ++ l :: rest)) := by
      rw [same]
      by_cases first : (Token.word w).keyword = some .IF
      · simp [Phrase.read, expectAll, expect, token, first, other, bind]
      · simp [Phrase.read, expectAll, expect, token, first, bind]
    exact read_bind_of_done none rfl

end Opening

/-! ### Elements without queries -/

section Elements

variable {calls : Reader} {α : Type} {P : α → Prop}

theorem Gives.within {there : Place} {p : Phrase α} (h : Gives calls p P) :
    Gives calls (.within there p) P :=
  fun _ ls a rest flat done => h there ls a rest flat done

/-- Expressions that embed no query, if there are any. -/
abbrev NoQueries (found : Option (List Expr)) : Prop := ∀ es ∈ found, ∀ e ∈ es, Queryless e

theorem noQueries_some {es : List Expr} (h : ∀ e ∈ es, Queryless e) : NoQueries (some es) := by
  simpa [NoQueries] using h

theorem noQueries_nil : NoQueries (some []) := noQueries_some (List.forall_mem_nil _)

variable [Plain calls]

theorem gives_single {p : Phrase Expr} (h : Gives calls p Queryless) :
    Gives calls (do return [← p] : Phrase (List Expr)) fun es => ∀ e ∈ es, Queryless e :=
  .bind h fun _ he => .pure (by simpa using he)

theorem gives_some {p : Phrase (List Expr)} (h : Gives calls p fun es => ∀ e ∈ es, Queryless e) :
    Gives calls (do return some (← p) : Phrase (Option (List Expr))) NoQueries :=
  .bind h fun _ hes => .pure (noQueries_some hes)

theorem gives_defaultValue : Gives calls defaultValue fun es => ∀ e ∈ es, Queryless e :=
  .then fun _ => .ite (fun _ => .within (gives_single Plain.operand))
    fun _ => .within (gives_single gives_expression)

theorem gives_condition : Gives calls (freely (paren expression)) fun es => ∀ e ∈ es, Queryless e :=
  .within (gives_single .paren)

theorem gives_generated : Gives calls generated NoQueries := by
  refine .then fun _ => .ite (fun _ => .then fun _ => .pure noQueries_nil) fun _ => ?_
  refine .then fun _ => .ite (fun _ => ?_) fun _ => .empty
  refine .then fun _ => .ite (fun _ => ?_) fun _ => .empty
  exact .bind gives_condition fun _ hes => .then fun _ => .pure (noQueries_some hes)

theorem gives_nothingOf {p : Phrase α} : Gives calls (columnOption.nothingOf p) NoQueries :=
  .then fun _ => .pure noQueries_nil

theorem gives_columnOption : Gives calls columnOption NoQueries := by
  refine .then fun _ => .ite (fun _ => gives_nothingOf) fun _ => ?_
  refine .then fun _ => .ite (fun _ => gives_nothingOf) fun _ => ?_
  refine .then fun _ => .ite (fun _ => .pure noQueries_nil) fun _ => ?_
  refine .then fun _ => .ite (fun _ => gives_nothingOf) fun _ => ?_
  refine .then fun _ => .ite (fun _ => .pure noQueries_nil) fun _ => ?_
  refine .then fun _ => .ite (fun _ => gives_some gives_defaultValue) fun _ => ?_
  refine .then fun _ => .ite (fun _ => gives_nothingOf) fun _ => ?_
  refine .then fun _ => .ite (fun _ => gives_nothingOf) fun _ => ?_
  refine .then fun _ => .ite (fun _ => gives_some gives_condition) fun _ => ?_
  -- Words that are passed over stand before the last two options.
  refine .then fun _ => .then fun _ => .then fun _ => .then fun _ => .then fun _ => ?_
  refine .then fun _ => .ite (fun _ => gives_generated) fun _ => ?_
  refine .then fun _ => .then fun _ => .then fun _ => ?_
  exact .then fun _ => .ite (fun _ => .pure noQueries_nil) fun _ => .empty

theorem gives_columnDefinition :
    Gives calls columnDefinition fun es => ∀ e ∈ es, Queryless e := by
  refine .then fun _ => .bind gives_typeParts fun parts hparts => ?_
  refine .bind (.series (P := fun es => ∀ e ∈ es, Queryless e) ?_) fun given hgiven => .pure ?_
  · refine .then fun _ => .ite (fun _ => .then fun _ => ?_) fun _ => gives_columnOption
    refine .bind gives_columnOption fun found hfound => ?_
    cases found with
    | some es => exact .pure hfound
    | none => exact .miss
  · simp only [List.mem_append, List.mem_flatten]
    grind

theorem gives_keyConstraint : Gives calls keyConstraint fun es => ∀ e ∈ es, Queryless e :=
  .then fun _ => .then fun _ =>
    .bind (P := fun _ => False) .paren fun _ impossible => impossible.elim

theorem gives_tableConstraint : Gives calls tableConstraint NoQueries := by
  unfold tableConstraint
  refine .then fun named => ?_
  extract_lets behind checks
  have keys : Gives calls (do return some (← keyConstraint)) NoQueries :=
    gives_some gives_keyConstraint
  have others : ∀ u, Gives calls (behind u) NoQueries := by
    intro _
    refine .then fun _ => .ite (fun _ => .then fun _ => keys) fun _ => ?_
    refine .then fun _ => .ite (fun _ => ?_) fun _ => ?_
    · exact .then fun _ => .then fun _ => .then fun _ => .then fun _ => .then fun _ =>
        .pure noQueries_nil
    · refine .then fun _ => .ite (fun _ => ?_) fun _ => .ite (fun _ => .miss) fun _ => .empty
      exact .bind (P := fun _ => False) .paren fun _ impossible => impossible.elim
  have all : ∀ u, Gives calls (checks u) NoQueries := by
    intro _
    refine .then fun _ => .ite (fun _ => ?_) fun _ => others ()
    exact .then fun _ => .ite (fun _ => .then others) fun _ => .then fun _ => keys
  exact .ite (fun _ => .then all) fun _ => all ()

/-- Elements of a table that embed no query. -/
def PlainElements (e : Elements) : Prop := ∀ x ∈ e.expressions, Queryless x

theorem gives_element : Gives calls element PlainElements := by
  refine .bind gives_tableConstraint fun found hfound => ?_
  cases found with
  | some parts => exact .pure (hfound parts rfl)
  | none =>
    refine .then fun _ => .ite (fun _ => ?_) fun _ => .miss
    refine .bind gives_columnDefinition fun es hes => .pure ?_
    simpa [PlainElements, Elements.expressions] using hes

theorem PlainElements.append {a b : Elements} (ha : PlainElements a) (hb : PlainElements b) :
    PlainElements (a.append b) := by
  simp only [PlainElements, Elements.expressions, Elements.append, List.mem_append] at *
  grind

theorem plainElements_foldl {es : List Elements} (h : ∀ e ∈ es, PlainElements e)
    {start : Elements} (hstart : PlainElements start) :
    PlainElements (es.foldl Elements.append start) := by
  induction es generalizing start with
  | nil => exact hstart
  | cons e es ih =>
    obtain ⟨he, hes⟩ := List.forall_mem_cons.mp h
    exact ih hes (hstart.append he)

/-- Elements in whose brackets no others open hold no query. -/
theorem tableElements_enclosed {ls rest : List Lexeme} (bracketless : Bracketless ls)
    {opened closed : Bool} {e : Elements}
    (h : tableElements.read calls .free
      (⟨.opening .round, opened⟩ :: (ls ++ [⟨.closing .round, closed⟩])) = .done e rest) :
    rest = [] ∧ PlainElements e := by
  obtain ⟨found, _, inside, done⟩ := read_bind_eq_done.mp h
  obtain ⟨es, _, inside, some⟩ := read_bind_eq_done.mp (read_next inside rfl)
  cases some
  cases done
  obtain ⟨ended, plain⟩ := Gives.listOrNone gives_element |>.enclosed bracketless inside
  exact ⟨ended, plainElements_foldl plain (List.forall_mem_nil _)⟩

end Elements

/-! ### Copied tables -/

section Copying

variable {calls : Reader} {o : Opening} {gs ts fs : List Lexeme} {t u : List Word}
  (named : t ≠ []) (copied : u ≠ []) (guard : Worded gs o.guard)
  (name : Worded ts (namePieces t))
include named guard name

section Kept

include copied

theorem newTable_like (worded : Worded fs (Copying.like.pieces u)) :
    (newTable o.prelude).read calls .free (gs ++ (ts ++ fs)) =
      .done (.createTable (o.heading t "LIKE") []) [] := by
  obtain ⟨_, _, _, us, rfl, source⟩ := worded.keyword
  refine read_bind_of_done (read_guard named guard name nofun) ?_
  refine read_bind_of_done (read_name named name (undotted_cons nofun)) ?_
  refine read_bind_of_done rfl ?_
  refine read_bind_of_done (a := some .LIKE) rfl ?_
  refine read_bind_of_done (read_bind_of_done (read_name_alone copied source) rfl) ?_
  rfl

theorem newTable_clone (worded : Worded fs (Copying.clone.pieces u)) :
    (newTable o.prelude).read calls .free (gs ++ (ts ++ fs)) =
      .done (.createTable (o.heading t "CLONE") []) [] := by
  obtain ⟨_, _, _, us, rfl, source⟩ := worded.keyword
  have whole : (attempt Grammar.name).read calls .free us = .done (some (u.map Word.ident)) [] :=
    read_attempt_of_done (read_name_alone copied source)
  refine read_bind_of_done (read_guard named guard name nofun) ?_
  refine read_bind_of_done (read_name named name (undotted_cons nofun)) ?_
  refine read_bind_of_done rfl ?_
  refine read_bind_of_done (a := none) rfl ?_
  refine read_bind_of_done (a := true) rfl ?_
  refine read_bind_of_done (a := true) (read_bind_of_done whole rfl) ?_
  rfl

theorem newTable_inherits (worded : Worded fs (Copying.inherits.pieces u)) :
    (newTable o.prelude).read calls .free (gs ++ (ts ++ fs)) =
      .done (.createTable (o.heading t "(") []) [] := by
  obtain ⟨_, _, _, bs, rfl, bracketed⟩ := worded.keyword
  obtain ⟨opened, cs, rfl, inside⟩ := bracketed.token
  obtain ⟨us, ds, rfl, source, closes⟩ := inside.split
  obtain ⟨closed, _, rfl, nothing⟩ := closes.token
  obtain rfl := nothing.nothing
  have parent : Grammar.name.read calls .free (us ++ [⟨.closing .round, closed⟩]) =
      .done (u.map Word.ident) [⟨.closing .round, closed⟩] :=
    read_name copied source (undotted_cons nofun)
  have parents : (list Grammar.name).read calls .free (us ++ [⟨.closing .round, closed⟩]) =
      .done [u.map Word.ident] [⟨.closing .round, closed⟩] :=
    read_bind_of_done parent rfl
  have inBrackets : (parenList Grammar.name).read calls .free
      (⟨.opening .round, opened⟩ :: (us ++ [⟨.closing .round, closed⟩])) =
        .done [u.map Word.ident] [] :=
    read_bind_of_done (a := ()) rfl (read_bind_of_done parents rfl)
  refine read_bind_of_done (read_guard named guard name nofun) ?_
  refine read_bind_of_done (read_name named name (undotted_cons nofun)) ?_
  -- No cluster, no model, no elements, no storage.
  refine read_bind_of_done rfl ?_
  refine read_bind_of_done (a := none) rfl ?_
  refine read_bind_of_done rfl (read_bind_of_done rfl ?_)
  refine read_bind_of_done rfl (read_bind_of_done rfl (read_bind_of_done rfl ?_))
  refine read_bind_of_done (a := true) rfl ?_
  refine read_bind_of_done (read_bind_of_done inBrackets rfl) ?_
  rfl

end Kept

theorem newTable_inBrackets [Plain calls] (worded : Worded fs (Copying.inBrackets.pieces u))
    {s : Statement} {left : List Lexeme}
    (h : (newTable o.prelude).read calls .free (gs ++ (ts ++ fs)) = .done s left) :
    ∃ parts, s = .createTable (o.heading t "(") parts ∧ ∀ e ∈ parts, Queryless e := by
  obtain ⟨_, bs, rfl, bracketed⟩ := worded.token
  obtain ⟨text, quoted, apart, cs, rfl, inside⟩ := bracketed.keyword
  obtain ⟨us, ds, rfl, source, closes⟩ := inside.split
  obtain ⟨closed, _, rfl, nothing⟩ := closes.token
  obtain rfl := nothing.nothing
  have bracketless : Bracketless (⟨.word ⟨text, quoted, some .LIKE⟩, apart⟩ :: us) :=
    List.forall_mem_cons.mpr ⟨⟨nofun, nofun⟩, bracketless_of_name source⟩
  have h := read_next h (read_guard named guard name nofun)
  have h := read_next h (read_name named name (undotted_cons nofun))
  have h := read_next (read_next (read_next (read_next h rfl) rfl) rfl) rfl
  obtain ⟨e, _, elements, h⟩ := read_bind_eq_done.mp h
  obtain ⟨rfl, plain⟩ := tableElements_enclosed bracketless elements
  obtain ⟨present, columns, constraints⟩ := e
  cases present
  all_goals
    cases h
    refine ⟨_, rfl, ?_⟩
    simpa [PlainElements, Elements.expressions, Storage.expressions] using plain

/-! ### Other tables -/

section Other

variable {us us' rest : List Lexeme} {u' : List Word} {text : String} {quoted apart : Bool}
  (source : Worded us (namePieces u)) (copied' : u' ≠ [])
  (source' : Worded us' (namePieces u')) (ends : Undotted rest) {s : Statement}
  {left : List Lexeme}
include copied source copied' source' ends

/-- What is read is the same whatever table the new one is like. -/
theorem newTable_like_other
    (h : (newTable o.prelude).read calls .free
      (gs ++ (ts ++ ⟨.word ⟨text, quoted, some .LIKE⟩, apart⟩ :: (us ++ rest))) = .done s left) :
    (newTable o.prelude).read calls .free
      (gs ++ (ts ++ ⟨.word ⟨text, quoted, some .LIKE⟩, apart⟩ :: (us' ++ rest))) =
        .done s left := by
  have h := read_next h (read_guard named guard name nofun)
  have h := read_next h (read_name named name (undotted_cons nofun))
  have h := read_next (read_next h rfl) (a := some .LIKE) rfl
  have h := read_next h (read_bind_of_done (read_name copied source ends) rfl)
  refine read_bind_of_done (read_guard named guard name nofun) ?_
  refine read_bind_of_done (read_name named name (undotted_cons nofun)) ?_
  refine read_bind_of_done rfl (read_bind_of_done (a := some .LIKE) rfl ?_)
  exact read_bind_of_done (read_bind_of_done (read_name copied' source' ends) rfl) h

/-- Nor does it matter whose clone the new table is. -/
theorem newTable_clone_other
    (h : (newTable o.prelude).read calls .free
      (gs ++ (ts ++ ⟨.word ⟨text, quoted, some .CLONE⟩, apart⟩ :: (us ++ rest))) = .done s left) :
    (newTable o.prelude).read calls .free
      (gs ++ (ts ++ ⟨.word ⟨text, quoted, some .CLONE⟩, apart⟩ :: (us' ++ rest))) =
        .done s left := by
  have whole {ls : List Lexeme} {n : List Word} (named : n ≠ [])
      (worded : Worded ls (namePieces n)) :
      (attempt Grammar.name).read calls .free (ls ++ rest) =
        .done (some (n.map Word.ident)) rest :=
    read_attempt_of_done (read_name named worded ends)
  have h := read_next h (read_guard named guard name nofun)
  have h := read_next h (read_name named name (undotted_cons nofun))
  have h := read_next (read_next (read_next h rfl) (a := none) rfl) (a := true) rfl
  have h := read_next h (a := true) (read_bind_of_done (whole copied source) rfl)
  refine read_bind_of_done (read_guard named guard name nofun) ?_
  refine read_bind_of_done (read_name named name (undotted_cons nofun)) ?_
  refine read_bind_of_done rfl (read_bind_of_done (a := none) rfl ?_)
  refine read_bind_of_done (a := true) rfl ?_
  exact read_bind_of_done (a := true) (read_bind_of_done (whole copied' source') rfl) h

end Other

end Copying

end QueryGateway.Sql
