import QueryGateway.Proofs.Sql.Reading

/-! Expressions without brackets.

Wherever the grammar takes a query into an expression, a round bracket opens before it. So an
expression that is read where no such bracket opens embeds no query (`plain_rules`).
`Gives` says what a phrase reads there; there is one lemma for each way to put phrases
together, and one for each phrase of the grammar of expressions. -/
namespace QueryGateway.Sql

open Phrase Grammar Ast

/-- Whether no round bracket opens in a row of lexemes. -/
def Unbracketed (ls : List Lexeme) : Prop := ∀ l ∈ ls, l.token ≠ .opening .round

theorem Unbracketed.of_suffix {ls rest : List Lexeme} (h : Unbracketed ls)
    (behind : rest <:+ ls) : Unbracketed rest :=
  fun l hl => h l (behind.mem hl)

/-- A row of lexemes without round brackets. -/
def Bracketless (ls : List Lexeme) : Prop :=
  ∀ l ∈ ls, l.token ≠ .opening .round ∧ l.token ≠ .closing .round

/-! ### What phrases give -/

/-- What a phrase reads where no bracket opens has a property. -/
def Gives (calls : Reader) {α : Type} (p : Phrase α) (P : α → Prop) : Prop :=
  ∀ place ls a rest, Unbracketed ls → p.read calls place ls = .done a rest → P a

section Gives

variable {calls : Reader} {α β σ : Type} {P : α → Prop} {Q : β → Prop}

theorem Gives.any {p : Phrase α} : Gives calls p fun _ => True :=
  fun _ _ _ _ _ _ => trivial

theorem Gives.pure {a : α} (h : P a) : Gives calls (pure a) P := by
  intro place ls b rest _ done
  cases done
  exact h

theorem Gives.empty : Gives calls (Pure.pure none) fun o => ∀ a ∈ o, P a :=
  .pure fun a h => absurd h (Option.not_mem_none a)

theorem Gives.nil : Gives calls (Pure.pure []) fun as => ∀ a ∈ as, P a :=
  .pure (List.forall_mem_nil _)

theorem Gives.miss : Gives calls .miss P := by
  intro place ls a rest _ done
  cases done

theorem Gives.ite {c : Prop} [Decidable c] {p q : Phrase α} (hp : c → Gives calls p P)
    (hq : ¬ c → Gives calls q P) : Gives calls (if c then p else q) P := by
  split
  · exact hp ‹_›
  · exact hq ‹_›

theorem Gives.bind [Shrinks calls] {p : Phrase α} {f : α → Phrase β} (hp : Gives calls p P)
    (hf : ∀ a, P a → Gives calls (f a) Q) : Gives calls (p >>= f) Q := by
  intro place ls b rest flat done
  obtain ⟨a, mid, first, done⟩ := read_bind_eq_done.mp done
  exact hf a (hp _ _ _ _ flat first) _ _ _ _ (flat.of_suffix (read_suffix first)) done

/-- Behind what is not kept. -/
theorem Gives.then [Shrinks calls] {p : Phrase α} {f : α → Phrase β}
    (hf : ∀ a, Gives calls (f a) Q) : Gives calls (p >>= f) Q :=
  .bind .any fun a _ => hf a

theorem Gives.attempt {p : Phrase α} (h : Gives calls p P) :
    Gives calls (attempt p) fun o => ∀ a ∈ o, P a := by
  intro place ls o rest flat done
  rw [Phrase.read] at done
  split at done
  case h_1 found =>
    cases done
    intro a ha
    cases ha
    exact h _ _ _ _ flat found
  case h_2 =>
    cases done
    intro a ha
    cases ha
  case h_3 => cases done

theorem Gives.fallback {p q : Phrase α} (hp : Gives calls p P) (hq : Gives calls q P) :
    Gives calls (fallback p q) P := by
  intro place ls a rest flat done
  rw [Phrase.read] at done
  split at done
  case h_1 found =>
    cases done
    exact hp _ _ _ _ flat found
  case h_2 missed =>
    split at done
    case h_1 found =>
      cases done
      exact hq _ _ _ _ flat found
    case h_2 => exact (missed _ _ done).elim

theorem Gives.loop [Shrinks calls] {start : σ} {step : σ → Phrase (Option σ)} {I : σ → Prop}
    (first : I start) (turn : ∀ s, I s → Gives calls (step s) fun o => ∀ s' ∈ o, I s') :
    Gives calls (loop start step) I := by
  intro place ls s rest flat done
  have kept : I s ∧ Unbracketed rest := by
    refine loopFrom_keeps (I := fun s ls => I s ∧ Unbracketed ls) ?_ ?_ ⟨first, flat⟩ done
    · intro s ls s' rest here turned
      exact ⟨turn s here.1 _ _ _ _ here.2 turned _ rfl, here.2.of_suffix (read_suffix turned)⟩
    · exact fun here stopped => ⟨here.1, here.2.of_suffix (read_suffix stopped)⟩
  exact kept.1

/-- Nothing is read in brackets where none opens. -/
theorem Gives.paren [Shrinks calls] {p : Phrase α} : Gives calls (paren p) P := by
  have none : Gives calls (opening .round) fun _ => False := by
    intro place ls a rest flat done
    cases ls with
    | nil => cases done
    | cons l ls =>
      have other : l.token ≠ .opening .round := flat l (List.mem_cons_self ..)
      simp [opening, token, Phrase.read, other] at done
  exact .bind none fun _ impossible => impossible.elim

/-- What is read in brackets that hold no others ends where the brackets do. -/
theorem Gives.enclosed [Shrinks calls] {p : Phrase α} (h : Gives calls p P) {place : Place}
    {ls rest : List Lexeme} (bracketless : Bracketless ls) {opened closed : Bool} {a : α}
    (done : (Grammar.paren p).read calls place
      (⟨.opening .round, opened⟩ :: (ls ++ [⟨.closing .round, closed⟩])) = .done a rest) :
    rest = [] ∧ P a := by
  obtain ⟨all, mid, inside, done⟩ := read_bind_eq_done.mp (read_next done rfl)
  obtain ⟨_, _, closes, done⟩ := read_bind_eq_done.mp done
  cases done
  constructor
  · -- The bracket that closes is the last lexeme, for no other one closes anything.
    obtain ⟨l, rfl, closing⟩ := closing_eq_done closes
    rcases List.suffix_concat_iff.mp (read_suffix inside) with none | ⟨before, whole, among⟩
    · cases none
    · cases before with
      | nil => exact (List.cons.inj whole).2
      | cons first before =>
        obtain ⟨rfl, _⟩ := List.cons.inj whole
        exact absurd closing (bracketless l (among.mem (List.mem_cons_self ..))).2
  · have flat : Unbracketed (ls ++ [⟨.closing .round, closed⟩]) := by
      intro l hl
      rcases List.mem_append.mp hl with hl | hl
      · exact (bracketless l hl).1
      · rw [List.mem_singleton.mp hl]
        nofun
    exact h _ _ _ _ flat inside

theorem Gives.parenIfAny [Shrinks calls] {p : Phrase α} :
    Gives calls (parenIfAny p) fun o => o = none :=
  .then fun _ => .ite (fun _ => .bind (P := fun _ => False) .paren fun _ h => h.elim)
    fun _ => .pure rfl

theorem Gives.series [Shrinks calls] {p : Phrase (Option α)}
    (h : Gives calls p fun o => ∀ a ∈ o, P a) : Gives calls (series p) fun as => ∀ a ∈ as, P a := by
  refine .bind (P := fun as => ∀ a ∈ as, P a) (.loop (by simp) fun found hfound => ?_)
    fun found hfound => .pure (by simpa using hfound)
  refine .bind h fun o ho => .pure ?_
  cases o with
  | none => exact fun _ h => absurd h (Option.not_mem_none _)
  | some a =>
    intro as has
    cases has
    simp only [List.mem_cons, forall_eq_or_imp]
    exact ⟨ho a rfl, hfound⟩

theorem Gives.separated [Shrinks calls] {between : Phrase Bool} {p : Phrase α}
    (h : Gives calls p P) : Gives calls (separated between p) fun as => ∀ a ∈ as, P a := by
  refine .bind h fun a ha => .bind (.series (P := P) ?_) fun as has => .pure ?_
  · exact .then fun _ => .ite (fun _ => .bind h fun a ha => .pure (by simpa using ha))
      fun _ => .empty
  · simp only [List.mem_cons, forall_eq_or_imp]
    exact ⟨ha, has⟩

theorem Gives.list [Shrinks calls] {p : Phrase α} (h : Gives calls p P) :
    Gives calls (list p) fun as => ∀ a ∈ as, P a :=
  .separated h

theorem Gives.listOrNone [Shrinks calls] {b : Bracket} {p : Phrase α} (h : Gives calls p P) :
    Gives calls (listOrNone b p) fun as => ∀ a ∈ as, P a :=
  .then fun _ => .ite (fun _ => .nil) fun _ => .list h

theorem Gives.after [Shrinks calls] {k : Keyword} {p : Phrase (List α)}
    (h : Gives calls p fun as => ∀ a ∈ as, P a) :
    Gives calls (after k p) fun as => ∀ a ∈ as, P a :=
  .then fun _ => .ite (fun _ => h) fun _ => .nil

end Gives

/-! ### Expressions without queries -/

/-- An expression that embeds no query. -/
def Queryless (e : Expr) : Prop := lowerExpr e = .ok []

theorem lowerExprs_of_queryless {es : List Expr} (h : ∀ e ∈ es, Queryless e) :
    lowerExprs es = .ok [] := by
  induction es with
  | nil => rfl
  | cons e es ih =>
    obtain ⟨he, hes⟩ := List.forall_mem_cons.mp h
    rw [lowerExprs, he, ih hes]
    rfl

theorem queryless_name (n : Name) : Queryless (.name n) := rfl

theorem queryless_form {es : List Expr} (h : ∀ e ∈ es, Queryless e) : Queryless (.form es) :=
  lowerExprs_of_queryless h

theorem queryless_path {es : List Expr} (h : ∀ e ∈ es, Queryless e) : Queryless (.path es) :=
  lowerExprs_of_queryless h

theorem queryless_access {e m : Expr} (he : Queryless e) (hm : Queryless m) :
    Queryless (access e m) := by
  unfold access
  split
  · exact queryless_name _
  · exact hm
  · exact queryless_path (by simp [he, hm])

/-- How rules are read that read no queries where no bracket opens. -/
class Plain (calls : Reader) : Prop extends Shrinks calls where
  expression (above : Nat) : Gives calls (operandOf above) Queryless
  operand : Gives calls operand Queryless
  dataType : Gives calls (call .dataType) fun t => ∀ e ∈ t.parts, Queryless e

section Plain

variable {calls : Reader} [Plain calls]

theorem gives_expression : Gives calls expression Queryless := Plain.expression 0

/-! ### Data types -/

/-- A data type with no query in its columns. -/
abbrev PlainType (t : TypeName) : Prop := ∀ e ∈ t.parts, Queryless e

theorem gives_typeParts : Gives calls typeParts fun es => ∀ e ∈ es, Queryless e := by
  refine .bind (P := PlainType) ?_ fun t ht => .pure ht
  exact .bind Plain.dataType fun t ht => .ite (fun _ => .miss) fun _ => .pure ht

theorem gives_angled : Gives calls angled PlainType := by
  refine .then fun _ => .bind Plain.dataType fun inner hinner => ?_
  have closed {twice : Bool} : PlainType ⟨.builtin, twice, inner.parts⟩ := hinner
  refine .ite (fun _ => .pure closed) fun _ => ?_
  exact .then fun _ => .ite (fun _ => .pure closed) fun _ => .then fun _ => .pure closed

theorem gives_singularType {k : Keyword} {p : Phrase TypeName} (h : singularType k = some p) :
    Gives calls p PlainType := by
  have builtin (words : Phrase Unit) :
      Gives calls (do words; return ⟨.builtin, false, []⟩ : Phrase TypeName) PlainType :=
    .then fun _ => .pure (List.forall_mem_nil _)
  unfold singularType at h
  split at h
  all_goals cases h
  any_goals exact builtin _
  · exact .then fun _ => .then fun _ => .pure (List.forall_mem_nil _)
  · exact gives_angled
  · refine .bind .parenIfAny fun columns none => .pure ?_
    subst none
    exact List.forall_mem_nil _

theorem gives_namedType : Gives calls namedType PlainType :=
  .then fun _ => .ite (fun _ => .then fun _ => .then fun _ => .pure (List.forall_mem_nil _))
    fun _ => .miss

theorem gives_scalarType : Gives calls scalarType PlainType := by
  refine .then fun next => ?_
  cases next with
  | none => exact gives_namedType
  | some k =>
    refine .then fun _ => .ite (fun _ => .pure (List.forall_mem_nil _)) fun _ => ?_
    cases typeShape k with
    | some shape => exact .then fun _ => .then fun _ => .pure (List.forall_mem_nil _)
    | none =>
      cases singular : singularType k with
      | some rest => exact .then fun _ => gives_singularType singular
      | none => exact gives_namedType

theorem gives_wholeDataType : Gives calls wholeDataType PlainType := by
  refine .bind gives_scalarType fun scalar hscalar => .then fun arrays => .pure ?_
  split <;> exact hscalar

/-! ### Calls -/

/-- What stands in the brackets of a call is not reached. -/
theorem gives_callOfName {P : Expr → Prop} : Gives calls callOfName P :=
  .bind (P := fun _ => False) .paren fun _ impossible => impossible.elim

theorem gives_starOrExpression :
    Gives calls starOrExpression fun o => ∀ e ∈ o, Queryless e := by
  refine .then fun _ => .ite (fun _ => .empty) fun _ => ?_
  refine .then fun _ => .ite (fun _ => .then fun _ => .empty) fun _ => ?_
  refine .then fun way => ?_
  cases way with
  | broken => exact .miss
  | star => exact .then fun _ => .then fun _ => .empty
  | ended => exact .bind gives_expression fun e he => .pure (by simpa using he)

theorem gives_intervalValue : Gives calls intervalValue Queryless :=
  .bind Plain.operand fun e he => .then fun _ => .pure (queryless_form (by simpa using he))

theorem gives_starParts : Gives calls (do return (← starOrExpression).toList : Phrase (List Expr))
    fun es => ∀ e ∈ es, Queryless e :=
  .bind gives_starOrExpression fun _ ho => .pure (by simpa using ho)

theorem gives_namedParts :
    Gives calls (do
      match ← attempt (do
        let first ← expression
        nameSign
        return first :: (← starOrExpression).toList) with
      | some parts => return parts
      | none => return (← starOrExpression).toList : Phrase (List Expr))
      fun es => ∀ e ∈ es, Queryless e := by
  refine .bind (.attempt (P := fun es => ∀ e ∈ es, Queryless e) ?_) fun found hfound => ?_
  · refine .bind gives_expression fun e he => .then fun _ => ?_
    exact .bind gives_starOrExpression fun o ho => .pure (by simpa using ⟨he, ho⟩)
  · cases found with
    | some parts => exact .pure (hfound parts rfl)
    | none => exact gives_starParts

theorem gives_argument : Gives calls argument fun es => ∀ e ∈ es, Queryless e := by
  refine .then fun _ => .ite (fun _ => gives_starParts) fun _ => .then fun way => ?_
  cases way with
  | ended =>
    refine .bind gives_expression fun e he => ?_
    refine .bind (.attempt (.then fun _ => gives_starOrExpression)) fun value hvalue => ?_
    cases value with
    | some o => exact .pure (by simpa using ⟨he, hvalue o rfl⟩)
    | none => exact .pure (by simpa using he)
  | star => exact gives_namedParts
  | broken => exact gives_namedParts

/-! ### Operands -/

theorem gives_caseForm : Gives calls caseForm Queryless := by
  unfold caseForm
  refine .then fun _ => ?_
  extract_lets branches
  have rest : ∀ subject, (∀ e ∈ subject, Queryless e) →
      Gives calls (branches subject) Queryless := by
    intro subject hsubject
    refine .bind (.separated (P := fun es => ∀ e ∈ es, Queryless e) ?_) fun parts hparts => ?_
    · refine .bind gives_expression fun condition hc => .then fun _ => ?_
      exact .bind gives_expression fun value hv => .pure (by simpa using ⟨hc, hv⟩)
    · refine .bind (.after (P := Queryless) ?_) fun otherwise ho => ?_
      · exact .bind gives_expression fun e he => .pure (by simpa using he)
      · refine .then fun _ => .pure (queryless_form ?_)
        simp only [List.mem_append, List.mem_flatten]
        grind
  refine .ite (fun _ => .bind .nil rest) fun _ => ?_
  refine .bind gives_expression fun e he => .then fun _ => ?_
  exact .bind (.pure (by simpa using he)) rest

theorem gives_elements : Gives calls elements Queryless :=
  .then fun _ => .bind (.listOrNone gives_expression) fun _ hes => .then fun _ =>
    .pure (queryless_form hes)

theorem gives_bracketedQuery {P : Expr → Prop} : Gives calls bracketedQuery P :=
  .bind (P := fun _ => False) .paren fun _ impossible => impossible.elim

theorem gives_positionForm : Gives calls positionForm Queryless := by
  refine .bind (.attempt (P := Queryless) .paren) fun found hfound => ?_
  cases found with
  | some e => exact .pure (hfound e rfl)
  | none => exact gives_callOfName

/-- Of the forms that words start only those without brackets come about: constants, cases,
negations, and arrays between square brackets. -/
theorem gives_wordForm {k : Keyword} {behind : Option Bracket} {form : Phrase Expr}
    (h : wordForm k behind = some form) : Gives calls form Queryless := by
  have moment : Gives calls (do
      if ← ahead (opens .round) then return .call (← arguments) else return .call [])
      Queryless :=
    .then fun _ => .ite (fun _ => .bind (P := fun _ => False) .paren fun _ h => h.elim)
      fun _ => .pure rfl
  have shape : Gives calls (do
      let _ ← constant
      return .form []) Queryless :=
    .then fun _ => .pure rfl
  unfold wordForm at h
  split at h
  any_goals cases h
  any_goals exact .paren
  any_goals exact gives_bracketedQuery
  any_goals exact .pure rfl
  any_goals exact moment
  any_goals exact shape
  · exact gives_caseForm
  · split at h
    all_goals cases h
    exact gives_positionForm
  · exact gives_intervalValue
  · split at h
    all_goals cases h
    · exact gives_elements
    · exact .bind (P := fun _ => False) gives_bracketedQuery fun _ h => h.elim
  · refine .then fun _ => .ite (fun _ => gives_bracketedQuery) fun _ => ?_
    exact .bind (Plain.expression _) fun e he => .pure (queryless_form (by simpa using he))

theorem gives_plainWord (w : Word) : Gives calls (plainWord w) Queryless := by
  unfold plainWord
  refine .then fun _ => .ite (fun _ => gives_callOfName) fun _ => ?_
  extract_lets named
  have rest : ∀ introduced, Gives calls (named introduced) Queryless :=
    fun introduced => .ite (fun _ => .pure rfl) fun _ => .pure rfl
  exact .ite (fun _ => .then rest) fun _ => .then rest

theorem gives_wordOperand : Gives calls wordOperand Queryless := by
  refine .then fun w => .then fun behind => ?_
  have plain : Gives calls (plainWord w) Queryless := gives_plainWord w
  cases w.keyword with
  | none => exact plain
  | some k =>
    dsimp only
    cases starts : wordForm k behind with
    | none => exact plain
    | some form =>
      have given : Gives calls form Queryless := gives_wordForm starts
      exact .ite (fun _ => given) fun _ => .fallback given plain

theorem gives_typedConstant : Gives calls typedConstant Queryless := by
  refine .bind (P := PlainType) ?_ fun t ht => ?_
  · exact .bind Plain.dataType fun t ht => .ite (fun _ => .miss) fun _ => .pure ht
  · cases t.form with
    | builtin => exact .then fun _ => .pure (queryless_form ht)
    | interval => exact gives_intervalValue
    | custom => exact .miss

theorem gives_braced : Gives calls braced Queryless := by
  refine .then fun _ => ?_
  refine .bind (.attempt (P := Queryless) ?_) fun found hfound => ?_
  · exact .then fun _ => .then fun _ => gives_callOfName
  · extract_lets closed
    have rest : ∀ e, Queryless e → Gives calls (closed e) Queryless :=
      fun e he => .then fun _ => .pure he
    cases found with
    | some e => exact .bind (.pure (hfound e rfl)) rest
    | none => exact .then fun _ => .then fun _ => .bind (P := Queryless) (.pure rfl) rest

theorem gives_untypedOperand : Gives calls untypedOperand Queryless := by
  refine .then fun lead => ?_
  cases lead with
  | some level =>
    exact .bind (Plain.expression level) fun e he => .pure (queryless_form (by simpa using he))
  | none =>
    refine .then fun _ => .ite (fun _ => gives_wordOperand) fun _ => ?_
    refine .then fun _ => .ite (fun _ => .paren) fun _ => ?_
    refine .then fun _ => .ite (fun _ => gives_elements) fun _ => ?_
    refine .then fun _ => .ite (fun _ => gives_braced) fun _ => ?_
    exact .then fun _ => .pure rfl

theorem gives_wholeOperand : Gives calls wholeOperand Queryless := by
  unfold wholeOperand
  refine .then fun _ => ?_
  extract_lets untyped
  have rest : ∀ typed : Option Expr, (∀ e ∈ typed, Queryless e) →
      Gives calls (untyped typed) Queryless := by
    intro typed htyped
    cases typed with
    | some e => exact .pure (htyped e rfl)
    | none =>
      refine .bind gives_untypedOperand fun e he => .then fun _ => ?_
      have collated : Queryless (.form [e]) := queryless_form (by simpa using he)
      refine .ite (fun _ => .then fun _ => ?_) fun _ => .pure he
      exact .ite (fun _ => .then fun _ => .pure collated) fun _ => .pure he
  exact .ite (fun _ => .bind (.attempt gives_typedConstant) rest) fun _ => .bind .empty rest

/-! ### Accesses -/

theorem gives_member : Gives calls member Queryless := by
  refine .bind (.attempt (P := Queryless) ?_) fun found hfound => ?_
  · refine .bind (Plain.expression _) fun e he => ?_
    cases e with
    | name | literal | call | path => exact .pure he
    | query | form | aside => exact .miss
  · cases found with
    | some e => exact .pure (hfound e rfl)
    | none => exact .then fun _ => .pure rfl

theorem gives_subscript : Gives calls subscript fun es => ∀ e ∈ es, Queryless e := by
  unfold subscript
  refine .then fun _ => ?_
  extract_lets behind
  have rest : ∀ lower, (∀ e ∈ lower, Queryless e) →
      Gives calls (behind lower) fun es => ∀ e ∈ es, Queryless e := by
    intro lower hlower
    refine .then fun _ => .ite (fun _ => .pure hlower) fun _ => .then fun _ => ?_
    refine .then fun _ => .ite (fun _ => .pure hlower) fun _ => ?_
    refine .bind gives_expression fun upper hupper => ?_
    have both : ∀ e ∈ lower ++ [upper], Queryless e := by
      simpa [or_imp, forall_and] using ⟨hlower, hupper⟩
    refine .then fun _ => .ite (fun _ => .pure both) fun _ => .then fun _ => ?_
    refine .then fun _ => .ite (fun _ => .pure both) fun _ => ?_
    refine .bind gives_expression fun stride hstride => .then fun _ => .pure ?_
    simpa [or_imp, forall_and] using ⟨hlower, hupper, hstride⟩
  refine .ite (fun _ => .bind .nil rest) fun _ => ?_
  exact .bind gives_expression fun e he => .bind (.pure (by simpa using he)) rest

theorem gives_accesses {root : Expr} (hroot : Queryless root) :
    Gives calls (accesses root) Queryless := by
  refine .bind (P := fun s => Queryless s.1) (.loop hroot fun s hs => ?_) fun s hs => .pure hs
  obtain ⟨e, ended⟩ := s
  have goesOn {e : Expr} {ended : Bool} (he : Queryless e) :
      ∀ s' ∈ some (e, ended), Queryless s'.1 := by
    simpa using he
  refine .ite (fun _ => .empty) fun _ => .then fun _ => .ite (fun _ => ?_) fun _ => ?_
  · refine .then fun _ => .ite (fun _ => ?_) fun _ => .then fun i => ?_
    · cases e with
      | name => exact .pure (goesOn rfl)
      | _ => exact .miss
    · cases i with
      | some i => exact .pure (goesOn (queryless_access hs rfl))
      | none =>
        exact .bind gives_member fun m hm => .pure (goesOn (queryless_access hs hm))
  · refine .then fun _ => .ite (fun _ => ?_) fun _ => .empty
    refine .bind gives_subscript fun es hes => .pure (goesOn (queryless_path ?_))
    simpa using ⟨hs, hes⟩

/-! ### Operators -/

theorem gives_membership (left : Expr) {P : Expr → Prop} :
    Gives calls (membership left) P :=
  .then fun _ => .ite (fun _ => .bind (P := fun _ => False) .paren fun _ h => h.elim)
    fun _ => .paren

section Operators

variable {left : Expr} (hleft : Queryless left)
include hleft

/-- An operator keeps its left side and what it reads on its right. -/
theorem queryless_with {es : List Expr} (h : ∀ e ∈ es, Queryless e) :
    Queryless (.form (left :: es)) :=
  queryless_form (List.forall_mem_cons.mpr ⟨hleft, h⟩)

theorem queryless_alone : Queryless (.form [left]) :=
  queryless_with hleft (List.forall_mem_nil _)

theorem gives_rightOperand (level : Nat) :
    Gives calls (do return .form [left, ← operandOf level] : Phrase Expr) Queryless :=
  .bind (Plain.expression level) fun e he => .pure (queryless_with hleft (by simpa using he))

theorem gives_rightSide (comparing : Bool) (level : Nat) :
    Gives calls (rightSide left comparing level) Queryless := by
  refine .then fun _ => .ite (fun _ => ?_) fun _ => gives_rightOperand hleft level
  refine .bind (P := Queryless) ?_ fun right hright => .ite (fun _ => .pure ?_) fun _ => .miss
  · exact .then fun _ => .ite (fun _ => Plain.expression level) fun _ => .paren
  · exact queryless_with hleft (by simpa using hright)

theorem gives_escaped (level : Nat) :
    Gives calls (do
      let right ← operandOf level
      escapeClause
      return .form [left, right] : Phrase Expr) Queryless :=
  .bind (Plain.expression level) fun e he => .then fun _ =>
    .pure (queryless_with hleft (by simpa using he))

theorem gives_isForm : Gives calls (isForm left) Queryless := by
  have alone : Queryless (.form [left]) := queryless_alone hleft
  refine .then fun _ => .ite (fun _ => .pure alone) fun _ => ?_
  refine .then fun _ => .ite (fun _ => gives_rightOperand hleft 0) fun _ => ?_
  exact .then fun _ => .then fun _ => .then fun _ => .pure alone

theorem gives_predicate : Gives calls (predicate left) Queryless := by
  unfold predicate
  refine .then fun negated => .then fun regexp => .then fun rlike => .then fun place => ?_
  extract_lets behind
  have rest : ∀ null, Gives calls (behind null) Queryless := by
    intro null
    refine .ite (fun _ => gives_rightOperand hleft _) fun _ => ?_
    refine .ite (fun _ => .pure (queryless_alone hleft)) fun _ => ?_
    refine .then fun _ => .ite (fun _ => gives_membership left) fun _ => ?_
    refine .then fun _ => .ite (fun _ => ?_) fun _ => ?_
    · refine .bind (Plain.expression _) fun low hlow => .then fun _ => ?_
      refine .bind (Plain.expression _) fun high hhigh => .pure (queryless_with hleft ?_)
      simpa using ⟨hlow, hhigh⟩
    · refine .then fun _ => .ite (fun _ => .then fun _ => gives_escaped hleft _) fun _ => ?_
      exact .then fun _ => gives_escaped hleft _
  exact .ite (fun _ => .then rest) fun _ => .then rest

theorem gives_wordOperator (level : Nat) (k : Keyword) :
    Gives calls (wordOperator left level k) Queryless := by
  unfold wordOperator
  split
  any_goals exact .then fun _ => gives_rightSide hleft false level
  any_goals exact gives_predicate hleft
  · exact .then fun _ => .then fun _ => gives_rightSide hleft false level
  · exact .then fun _ => gives_isForm hleft
  · exact .then fun _ => .pure (queryless_alone hleft)
  · exact .then fun _ => gives_rightOperand hleft level
  · exact .then fun _ => .then fun _ => .pure (queryless_alone hleft)
  · exact .then fun _ => .bind (P := fun _ => False) .paren fun _ h => h.elim
  · exact .miss

theorem gives_markOperator (level : Nat) (s : Symbol) :
    Gives calls (markOperator left level s) Queryless := by
  refine .then fun _ => ?_
  split
  · exact .bind gives_typeParts fun es hes => .pure (queryless_with hleft hes)
  · exact .pure (queryless_alone hleft)
  · exact gives_rightSide hleft _ level

theorem gives_operator (level : Nat) : Gives calls (operator left level) Queryless := by
  refine .then fun next => ?_
  split
  · exact gives_markOperator hleft level _
  · split
    · exact gives_wordOperator hleft level _
    · exact .miss
  · exact .miss

end Operators

theorem gives_expressionAbove (above : Nat) : Gives calls (expressionAbove above) Queryless := by
  refine .then fun place => .bind Plain.operand fun root hroot => ?_
  refine .bind (gives_accesses hroot) fun first hfirst => .loop hfirst fun left hleft => ?_
  refine .then fun level => .ite (fun _ => .empty) fun _ => ?_
  exact .bind (gives_operator hleft level) fun e he => .pure (by simpa using he)

end Plain

/-- **An expression in which no round bracket opens embeds no query**, however deep its
operands lie. -/
instance plain_rules (fuel levels : Nat) : Plain (Rule.read phraseOf fuel levels) := by
  induction fuel using Nat.strongRecOn generalizing levels with
  | ind fuel ih =>
    have rule {r : Rule} {P : r.Reading → Prop}
        (gives : ∀ calls [Plain calls], Gives calls (phraseOf r) P) :
        Gives (Rule.read phraseOf fuel levels) (call r) P := by
      intro place ls a rest flat done
      obtain ⟨fuel', levels', less, done⟩ := phrase_of_rule done
      have := ih fuel' less levels'
      exact gives _ _ _ _ _ flat done
    exact {
      expression := fun above => rule fun _ _ => gives_expressionAbove above
      operand := rule fun _ _ => gives_wholeOperand
      dataType := rule fun _ _ => gives_wholeDataType }

end QueryGateway.Sql
