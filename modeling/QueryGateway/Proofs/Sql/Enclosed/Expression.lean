import QueryGateway.Proofs.Sql.Enclosed.Vocabulary

/-! Expressions in front of a closing bracket.

There is one lemma for each phrase of the grammar of types, calls and expressions. Where a
phrase takes a token whatever it is, the lemma says why that is no bracket. -/
namespace QueryGateway.Sql

open Phrase Grammar Ast

set_option synthInstance.maxSize 20000

variable {calls : Reader} {tail : List Lexeme} [Enclosing calls tail] {b : Nat}

/-! ### Data types -/

instance confined_precision : Confined calls tail b precision := confined_unkept

instance confined_signedSize : Confined calls tail b signedSize := by
  unfold signedSize
  infer_instance

instance confined_precisionAndScale : Confined calls tail b precisionAndScale := by
  unfold precisionAndScale
  infer_instance

instance confined_length : Confined calls tail b length := by
  unfold length
  infer_instance

instance confined_byteLength : Confined calls tail b byteLength := by
  unfold byteLength
  infer_instance

instance confined_modifiers : Confined calls tail b modifiers := by
  have modifier : Confined calls tail 1 (many <| token fun
      | .word _ | .number .. | .string .plain _ | .symbol .comma => some ()
      | _ => none) :=
    confined_many .one
  exact confined_unkept

instance confined_shapeRest {shape : TypeShape} : Confined calls tail b (shapeRest shape) := by
  cases shape <;> unfold shapeRest <;> infer_instance

instance confined_intervalUnits : Confined calls tail b intervalUnits := by
  refine .andThen confined_hasAny fun unit => ?_
  split <;> infer_instance

instance confined_labels : Confined calls tail b labels := by
  unfold labels
  infer_instance

instance confined_angled : Confined calls tail b angled :=
  .andThen confined_mark fun _ => .andThen (.call rfl) fun _ => .either .pure <|
    .andThen confined_hasMark fun _ => .either .pure <| .andThen confined_mark fun _ => .pure

theorem confined_singularType {k : Keyword} {p : Phrase TypeName} (h : singularType k = some p) :
    Confined calls tail b p := by
  unfold singularType at h
  split at h
  all_goals cases h
  all_goals infer_instance

instance confined_namedType : Confined calls tail b namedType := by
  unfold namedType
  infer_instance

instance confined_scalarType : Confined calls tail b scalarType := by
  refine .andThen confined_nextKeyword fun next => ?_
  cases next with
  | none => exact confined_namedType
  | some k =>
    refine .andThen confined_hasAll fun _ => .either .pure ?_
    cases typeShape k with
    | some shape => exact .bind
    | none =>
      cases singular : singularType k with
      | some rest => exact .andThen confined_expect fun _ => confined_singularType singular
      | none => exact confined_namedType

instance confined_wholeDataType : Confined calls tail b wholeDataType := by
  refine .andThen confined_scalarType fun scalar => .andThen (confined_series ?_) fun arrays =>
    .pure
  exact .later fun _ => .ite (fun _ => .first .one) fun _ => .pure Bool.false_ne_true

instance confined_intervalQualifier : Confined calls tail b intervalQualifier := by
  have unit : Confined calls tail b (token fun t =>
      t.keyword.bind fun k => if isUnit k then some k else none) :=
    .token rfl rfl
  unfold intervalQualifier
  infer_instance

/-! ### Sort keys and windows -/

instance confined_sortOrder : Confined calls tail b sortOrder := by
  unfold sortOrder
  infer_instance

instance confined_sortKey : Confined calls tail b sortKey := by
  unfold sortKey
  infer_instance

instance confined_sortKeys : Confined calls tail b sortKeys := confined_list

instance confined_orderBy : Confined calls tail b orderBy := confined_afterAll

instance confined_intervalValue : Confined calls tail b intervalValue := by
  unfold intervalValue
  infer_instance

instance confined_frameBound : Confined calls tail b frameBound := by
  unfold frameBound
  infer_instance

instance confined_frame : Confined calls tail b frame := by
  unfold frame
  infer_instance

instance confined_window : Confined calls tail b window := by
  unfold window
  infer_instance

/-! ### Calls -/

instance confined_nullClause : Confined calls tail b nullClause := by
  unfold nullClause
  infer_instance

instance confined_returnedType : Confined calls tail b returnedType := confined_after

instance confined_nameSign : Confined calls tail b nameSign := .token rfl rfl

/-- The tokens of a name with dots are taken whatever they are; none of them closes a
bracket. -/
instance confined_starOrExpression : Confined calls tail b starOrExpression := by
  constructor
  intro n hn
  refine .bind (confined_hasMark.alike n hn) fun _ => .ite (fun _ => .pure fun _ h => h) fun _ => ?_
  refine .bind (confined_startsStar.alike n hn) fun _ => .ite (fun _ => ?_) fun _ => ?_
  · exact .bind (confined_paren.alike n hn) fun _ => .pure fun _ h => h
  refine .bind (.ahead fun ls _ => chainAhead_before (Enclosing.closing calls)) fun way => ?_
  cases way with
  | broken => exact .miss
  | ended =>
    refine .bind ((confined_expression.alike n hn).weaken (fun _ h => h.1) fun _ _ h => h)
      fun e => ?_
    exact .pure fun _ h => h
  | star =>
    have name : Alike calls tail (fun ls => Open n ls ∧ chainAhead ls = .star) anything
        fun _ => Open n := by
      refine alike_anything (fun ls h => ⟨h.1, Bool.eq_false_iff.mpr fun stops => ?_⟩)
        fun _ _ _ h => h
      have ended : chainAhead ls = .ended := chainAhead_of_stops stops
      exact nomatch ended.symm.trans h.2
    refine .bind name fun _ => .bind (.loop (I := fun _ => Open n) (fun _ => ?_) fun _ => ?_)
      fun _ => .pure fun _ h => h
    · have star : Alike calls tail (fun ls => Open n ls ∧ stops ls = false) (mark .star)
          fun _ => Open n :=
        (confined_mark.alike n hn).weaken (fun _ h => h.1) fun _ _ h => h
      refine .bind alike_dot fun _ => .bind (alike_hasMark star) fun starred => ?_
      cases starred with
      | true => exact .pure fun _ h => h
      | false =>
        refine .bind (alike_anything (fun _ h => h.1) fun _ _ _ h => h) fun _ => ?_
        exact .pure fun _ h => h
    · exact .first .one

instance confined_argument : Confined calls tail b argument := by
  refine .andThen confined_startsStar fun _ => .either .bind <|
    .andThen confined_chainAhead fun way => ?_
  cases way with
  | ended => 
    refine .andThen confined_expression fun _ => .andThen .attempt fun value => ?_
    cases value <;> infer_instance
  | star | broken => 
    refine .andThen .attempt fun parts => ?_
    cases parts <;> infer_instance

instance confined_overflowClause : Confined calls tail b overflowClause := by
  unfold overflowClause
  infer_instance

instance confined_arguments : Confined calls tail b arguments := by
  unfold arguments
  infer_instance

/-- Behind the bracket before a condition the word for it has to come. -/
instance confined_filter : Confined calls tail b filter := by
  refine ⟨fun n _ => .bind (alike_has alike_clear) fun filtered => ?_⟩
  extract_lets rest
  have left : Alike calls tail (Open n) (rest ()) fun _ => Open n := .pure fun _ h => h
  cases filtered with
  | false => exact left.weaken (fun _ h => h.1) fun _ _ h => h
  | true =>
    have bracket : Alike calls tail (fun ls => Open n ls ∧ clear .FILTER ls = true)
        (opening .round) fun _ ls => Open (n + 1) ls ∧ spells .WHERE ls = true :=
      alike_openingBefore.weaken
        (fun ls h => ⟨h.1, fun opened => by simpa [clear, opened] using h.2⟩) fun _ _ h => h
    refine .bind bracket.attempt fun opened => ?_
    cases opened with
    | none => exact left.weaken (fun _ h => h.1.1) fun _ _ h => h
    | some =>
      have word : Alike calls tail (fun ls => Open (n + 1) ls ∧ spells .WHERE ls = true)
          (expect .WHERE) fun _ => Open (n + 1) :=
        Alike.kept.weaken (fun _ h => h.1) fun _ _ h => h
      refine .bind (alike_has word) fun found => ?_
      cases found with
      | true => exact .step fun _ => .bind alike_closing fun _ => .pure fun _ h => h
      | false => exact .pure fun _ h => nomatch h.2.symm.trans h.1.2

instance confined_callOfName : Confined calls tail b callOfName := by
  unfold callOfName
  infer_instance

/-! ### Forms that words start -/

instance confined_caseForm : Confined calls tail b caseForm := by
  unfold caseForm
  infer_instance

instance confined_bracketedQuery : Confined calls tail b bracketedQuery := by
  unfold bracketedQuery
  infer_instance

instance confined_castForm : Confined calls tail b castForm := by
  unfold castForm
  infer_instance

instance confined_convertForm : Confined calls tail b convertForm := by
  unfold convertForm
  infer_instance

instance confined_substringForm : Confined calls tail b substringForm := by
  unfold substringForm
  infer_instance

instance confined_overlayForm : Confined calls tail b overlayForm := by
  unfold overlayForm
  infer_instance

instance confined_trimForm : Confined calls tail b trimForm := by
  unfold trimForm
  infer_instance

instance confined_positionForm : Confined calls tail b positionForm := by
  refine .andThen .attempt fun found => ?_
  cases found <;> infer_instance

instance confined_elements : Confined calls tail b elements := by
  unfold elements
  infer_instance

theorem confined_wordForm {k : Keyword} {behind : Option Bracket} {form : Phrase Expr}
    (h : wordForm k behind = some form) : Confined calls tail b form := by
  unfold wordForm at h
  split at h
  any_goals cases h
  all_goals try infer_instance
  all_goals
    split at h
    all_goals cases h
    all_goals infer_instance

instance confined_plainWord {w : Word} : Confined calls tail b (plainWord w) := by
  unfold plainWord
  infer_instance

instance confined_wordOperand : Confined calls tail b wordOperand := by
  refine .andThen confined_word fun w => .andThen confined_opened fun behind => ?_
  have plain : Confined calls tail b (plainWord w) := confined_plainWord
  cases w.keyword with
  | none => exact plain
  | some k =>
    dsimp only
    cases starts : wordForm k behind with
    | none => exact plain
    | some form =>
      have given : Confined calls tail b form := confined_wordForm starts
      exact .either given .fallback

/-! ### Operands -/

instance confined_typedConstant : Confined calls tail b typedConstant := by
  refine .andThen confined_dataType fun t => ?_
  cases t.form <;> infer_instance

instance confined_bracketed : Confined calls tail b bracketed := by
  unfold bracketed
  infer_instance

instance confined_braced : Confined calls tail b braced := by
  refine .andThen confined_opening_curly fun _ => ?_
  extract_lets rest
  refine .andThen .attempt fun found => ?_
  have closes : ∀ e, Confined calls tail b (rest e) := fun e => .bind
  cases found with
  | some e => exact .andThen .pure closes
  | none =>
    refine .andThen confined_token fun _ => .andThen confined_constant fun _ =>
      .andThen .pure closes

instance confined_leadingMark : Confined calls tail b leadingMark := .token rfl rfl

instance confined_untypedOperand : Confined calls tail b untypedOperand := by
  refine .andThen .attempt fun level => ?_
  cases level <;> infer_instance

instance confined_wholeOperand : Confined calls tail b wholeOperand := by
  refine .andThen confined_startsWord fun _ => ?_
  extract_lets rest
  have other : ∀ typed, Confined calls tail b (rest typed) := by
    intro typed
    cases typed <;> infer_instance
  exact .either (.andThen .attempt other) (.andThen .pure other)

instance confined_member : Confined calls tail b member := by
  have accessed : Confined calls tail b (do
      match ← operandOf dotLevel with
      | .name n => return .name n
      | .literal => return .literal
      | .call parts => return .call parts
      | .path parts => return .path parts
      | _ => .miss : Phrase Expr) := by
    refine .andThen confined_operandOf fun e => ?_
    cases e <;> infer_instance
  refine .andThen .attempt fun found => ?_
  cases found <;> infer_instance

instance confined_subscript : Confined calls tail b subscript := by
  unfold subscript
  infer_instance

instance confined_direct : Confined calls tail b accesses.direct := .token rfl rfl

instance confined_accesses {root : Expr} : Confined calls tail b (accesses root) := by
  unfold accesses
  refine .andThen (.loop (fun state => ?_) fun state => ?_) fun _ => .pure
  · obtain ⟨e, ended⟩ := state
    refine .either .pure <| .andThen confined_hasMark fun _ => .either ?_ .bind
    refine .andThen confined_hasMark fun _ => .either ?_ (.andThen .attempt fun direct => ?_)
    · cases e <;> infer_instance
    · cases direct <;> infer_instance
  · obtain ⟨e, ended⟩ := state
    refine .ite (fun _ => .pure Bool.false_ne_true) fun _ => Takes.hasMark.bind fun dotted none =>
      .ite (fun dotted => (none dotted).elim) fun _ => ?_
    refine (Takes.attempt .one).bind fun o none => ?_
    refine .ite (fun opened => (none opened).elim) fun _ => ?_
    exact .pure Bool.false_ne_true

/-! ### Operators -/

instance confined_quantified {level : Nat} : Confined calls tail b (quantified level) := by
  have bracketed : Confined calls tail b
      (.ahead fun ls => opens .round ls && startsQuery (ls.drop 1)) :=
    .unseen calls fun h => both_before rfl (opens_before h) fun _ => spellsAny_before h
  unfold quantified
  infer_instance

instance confined_rightSide {left : Expr} {comparing : Bool} {level : Nat} :
    Confined calls tail b (rightSide left comparing level) := by
  unfold rightSide
  infer_instance

instance confined_membership {left : Expr} : Confined calls tail b (membership left) := by
  have values : Confined calls tail 1 (do
      match ← attempt query with
      | some q => return .form [left, .query q]
      | none => return .form (left :: (← expressions)) : Phrase Expr) := by
    refine .andThen .attempt fun q => ?_
    cases q <;> infer_instance
  exact .andThen confined_has fun _ => .ite

instance confined_escapeClause : Confined calls tail b escapeClause := confined_aside

instance confined_pattern {left : Expr} : Confined calls tail b (pattern left) := by
  unfold pattern
  infer_instance

instance confined_isForm {left : Expr} : Confined calls tail b (isForm left) := by
  unfold isForm
  infer_instance

instance confined_predicate {left : Expr} : Confined calls tail b (predicate left) := by
  unfold predicate
  infer_instance

/-- The parts of an operator's name are taken whatever they are. -/
theorem alike_operatorName {n : Nat} :
    Alike calls tail (fun ls => Open n ls ∧ clear .OPERATOR ls = true)
      (paren (unkept (separated (hasMark .dot) anything))) fun _ => Open n := by
  have bracket : Alike calls tail (fun ls => Open n ls ∧ clear .OPERATOR ls = true)
      (opening .round) fun _ ls => Open (n + 1) ls ∧ stops ls = false :=
    alike_openingBefore.weaken (fun ls h => ⟨h.1, fun opened => by simpa [clear, opened] using h.2⟩)
      fun _ _ h => h
  have name : Alike calls tail (fun ls => Open (n + 1) ls ∧ stops ls = false)
      (unkept (separated (hasMark .dot) anything)) fun _ => Open (n + 1) :=
    .bind alike_anythings fun _ => .pure fun _ h => h
  exact .bind bracket fun _ => .bind name fun _ => .bind alike_closing fun _ => .pure fun _ h => h

instance confined_wordOperator {left : Expr} {level : Nat} {k : Keyword} :
    Confined calls tail b (wordOperator left level k) := by
  unfold wordOperator
  split
  case h_5 =>
    refine ⟨fun n hn => .bind alike_clear fun _ => .bind alike_operatorName fun _ => ?_⟩
    exact confined_rightSide.alike n hn
  all_goals infer_instance

instance confined_markOperator {left : Expr} {level : Nat} {s : Symbol} :
    Confined calls tail b (markOperator left level s) := by
  refine .andThen confined_mark fun _ => ?_
  split <;> infer_instance

/-- No operator is a closing bracket, nor does the text end with one. -/
instance confined_operator {left : Expr} {level : Nat} :
    Confined calls tail b (operator left level) := by
  constructor
  intro n hn
  refine .ofNonempty (fun place _ => ?_) (.bind (.ahead fun ls h => ?_) fun next => ?_)
  · have closed : closes .round tail = true := Enclosing.closing calls
    obtain ⟨apart, more, rfl⟩ := exists_closing closed
    rfl
  · cases ls with
    | nil => exact (h.2 rfl).elim
    | cons => rfl
  · have kept {p : Phrase Expr} (confined : Confined calls tail b p) : Alike calls tail
        (fun ls => (Open n ls ∧ ls ≠ []) ∧ next? ls = next) p fun _ => Open n :=
      (confined.alike n hn).weaken (fun _ h => h.1.1) fun _ _ h => h
    split
    · exact kept confined_markOperator
    · split
      · exact kept confined_wordOperator
      · exact .miss
    · exact .miss

/-- A predicate takes at least the words that tell it. -/
theorem takes_predicate [Shrinks calls] {left : Expr} :
    Takes calls (predicate left) fun _ => True := by
  refine Takes.has.bind fun negated positive => Takes.has.bind fun regexp noRegexp =>
    Takes.has.bind fun rlike noRlike => .later fun place => ?_
  extract_lets rest
  have words : ∀ null, Takes calls (rest null) fun _ => True := by
    intro null
    refine .ite (fun either => ?_) fun _ => .ite (fun both => ?_) fun _ => ?_
    · simp [noRegexp, noRlike] at either
    · simp [positive] at both
    refine .orElse .has <| .orElse .has ?_
    refine Takes.hasAny.bind fun taken none => .ite (fun h => (none h).elim) fun _ => ?_
    exact .first (.first .one)
  exact .ite (fun _ => .later words) fun _ => .later words

theorem takes_operator [Shrinks calls] {left : Expr} {level : Nat} :
    Takes calls (operator left level) fun _ => True := by
  refine .later fun next => ?_
  split
  · exact .first .one
  · split
    · unfold wordOperator
      split
      all_goals try exact .first .one
      all_goals try exact .first (.first .one)
      all_goals try exact takes_predicate
      exact .miss
    · exact .miss
  · exact .miss

instance confined_expressionAbove {above : Nat} :
    Confined calls tail b (expressionAbove above) := by
  refine .andThen .here fun place => .andThen confined_operand fun e => .andThen confined_accesses
    fun first => .loop (fun left => .andThen confined_strength fun _ => .ite) fun left => ?_
  refine .later fun level => .ite (fun _ => .pure Bool.false_ne_true) fun _ => ?_
  exact .first takes_operator

end QueryGateway.Sql
