import QueryGateway.Proofs.Sql.Enclosed.Expression

/-! Queries in front of a closing bracket.

What an expression is for an expression, `Enclosed.Expression`, a query is here: one lemma for
each phrase of the grammar of tables, queries, changes and columns. They make every rule but
two read alike whether the text ends or a bracket closes (`enclosing_rules`). -/
namespace QueryGateway.Sql

open Phrase Grammar Ast

set_option synthInstance.maxSize 20000

variable {calls : Reader} {tail : List Lexeme} [Enclosing calls tail] {b : Nat}

/-! ### Aliases -/

instance confined_label {ends : Keyword → Bool} : Confined calls tail b (label ends) := by
  unfold label
  infer_instance

instance confined_labelled : Confined calls tail b labelled := by
  unfold labelled
  infer_instance

instance confined_labelColumns : Confined calls tail b labelColumns := by
  unfold labelColumns
  infer_instance

instance confined_tableLabel : Confined calls tail b tableLabel := by
  refine .andThen confined_label fun name => ?_
  cases name <;> infer_instance

/-! ### Tables turned round -/

instance confined_pivot : Confined calls tail b pivot := by
  refine ⟨fun n _ => .bind alike_opening fun _ => ?_⟩
  refine .step fun aggregates => .step fun _ => .step fun _ => ?_
  extract_lets rest
  have closed : ∀ keys, Alike calls tail (Open (n + 1)) (rest keys) fun _ => Open n := fun keys =>
    .step fun _ => .step fun values => .step fun otherwise => .bind alike_closing fun _ =>
      .step fun _ => .pure fun _ h => h
  exact .ite (fun _ => .step closed) fun _ => .step fun _ => .step closed

instance confined_unpivot : Confined calls tail b unpivot := by
  refine ⟨fun n _ => .step fun _ => ?_⟩
  extract_lets rest
  have bracketed : ∀ u, Alike calls tail (Open n) (rest u) fun _ => Open n := fun _ =>
    .bind alike_opening fun _ => .step fun value => .step fun _ => .step fun _ => .step fun _ =>
      .step fun sources => .bind alike_closing fun _ => .step fun _ => .pure fun _ h => h
  exact .ite (fun _ => .step bracketed) fun _ => bracketed ()

instance confined_turned {t : Factor} : Confined calls tail b (turned t) := by
  refine .loop (fun t => .andThen confined_hasAny fun way => ?_)
    fun t => Takes.hasAny.bind fun way none => ?_
  · split <;> infer_instance
  · cases way with
    | none => exact .pure Bool.false_ne_true
    | some => exact (none rfl).elim

/-! ### Tables made of documents -/

instance confined_jsonDefault : Confined calls tail b jsonDefault := by
  unfold jsonDefault
  infer_instance

theorem takes_jsonDefault [Shrinks calls] : Takes calls jsonDefault fun o => o.isSome = true := by
  refine Takes.hasAny.bind fun given none => ?_
  extract_lets rest
  refine .ite (fun given => (none given).elim) fun _ => ?_
  exact .orElse .has <| .known <| .pure Bool.false_ne_true

instance confined_jsonTableColumns : Confined calls tail b jsonTableColumns := by
  have column : Confined calls tail 1 (.call .jsonColumn) := .call rfl
  exact .andThen confined_parenList fun _ => .pure

instance confined_jsonTableColumn : Confined calls tail b jsonTableColumn := by
  have defaults : Confined calls tail b (series jsonDefault) := confined_series takes_jsonDefault
  unfold jsonTableColumn
  infer_instance

instance confined_jsonTable : Confined calls tail b jsonTable := by
  unfold jsonTable
  infer_instance

/-- The string that is passed over was seen. -/
theorem alike_string {n : Nat} : Alike calls tail (fun ls => Open n ls ∧ startsString ls = true)
    anything fun _ => Open n := by
  refine alike_anything (fun ls h => ⟨h.1, ?_⟩) fun _ _ _ h => h
  obtain ⟨_, string⟩ := h
  rcases ls with _ | ⟨⟨t, _⟩, _⟩
  · cases string
  · cases t with
    | string => rfl
    | _ => cases string

instance confined_jsonMembers : Confined calls tail b jsonMembers := by
  have column : Confined calls tail 1 (do
      let _ ← ident
      let parts ← typeParts
      if ← ahead startsString then anything
      if ← has .AS then expect .JSON
      return parts : Phrase (List Expr)) := by
    refine ⟨fun n _ => .step fun _ => .step fun parts => ?_⟩
    refine .bind (.ahead fun ls _ => startsString_before (Enclosing.closing calls)) fun string => ?_
    extract_lets given rest
    have others : ∀ u, Alike calls tail (Open n) (rest u) fun _ => Open n :=
      fun _ => .step fun _ => .kept
    refine .ite (fun seen => .bind ?_ others)
      fun _ => (others ()).weaken (fun _ h => h.1) fun _ _ h => h
    exact alike_string.weaken (fun _ h => ⟨h.1, h.2.trans seen⟩) fun _ _ h => h
  unfold jsonMembers
  infer_instance

instance confined_xmlColumn : Confined calls tail b xmlColumn := by
  unfold xmlColumn
  infer_instance

instance confined_xmlTable : Confined calls tail b xmlTable := by
  unfold xmlTable
  infer_instance

/-! ### Named tables -/

instance confined_bucketRest : Confined calls tail b sample.bucketRest := by
  unfold sample.bucketRest
  infer_instance

instance confined_amount : Confined calls tail b sample.amount := by
  unfold sample.amount
  refine .andThen .attempt fun e => ?_
  cases e <;> infer_instance

/-- The bracket around a quantity is closed if it was opened. -/
instance confined_sample : Confined calls tail b sample := by
  refine ⟨fun n _ => .step fun _ => .ite (fun _ => .pure fun _ h => h) fun _ => .step fun _ => ?_⟩
  refine .bind alike_opening.attempt fun opened => ?_
  cases opened with
  | none =>
    simp only [Option.isSome_none, Bool.false_eq_true, if_false]
    exact Alike.kept.weaken (fun _ h => h.1) fun _ _ h => h
  | some =>
    simp only [Option.isSome_some, if_true]
    refine .step fun bucket => .ite (fun _ => ?_) fun _ => ?_
    · exact .step fun _ => .bind alike_closing fun _ => .kept
    · exact .step fun _ => .bind alike_closing fun _ => .kept

instance confined_tableArguments : Confined calls tail b tableArguments := by
  unfold tableArguments
  infer_instance

instance confined_namedTable : Confined calls tail b namedTable := by
  have hinted : Confined calls tail b
      (.ahead fun ls => spells .WITH ls && opens .round (ls.drop 1)) :=
    .unseen calls fun h => both_before rfl (spells_before h) fun _ => opens_before h
  unfold namedTable
  infer_instance

/-! ### Joins -/

instance confined_condition : Confined calls tail b joined.condition := by
  unfold joined.condition
  infer_instance

/-- The words that are passed over were seen. -/
instance confined_joinWords : Confined calls tail b joined.joinWords := by
  constructor
  intro n hn
  refine .bind (.ahead fun ls _ => nextKeyword_before (Enclosing.closing calls)) fun next => ?_
  have plain {p : Phrase Bool} [confined : Confined calls tail b p] : Alike calls tail
      (fun ls => Open n ls ∧ nextKeyword ls = next) p fun _ => Open n :=
    (confined.alike n hn).weaken (fun _ h => h.1) fun _ _ h => h
  have behind {k : Keyword} (seen : next = some k) {p : Phrase Bool}
      [confined : Confined calls tail b p] : Alike calls tail
        (fun ls => Open n ls ∧ nextKeyword ls = next) (do anything; p) fun _ => Open n := by
    subst seen
    exact .bind alike_keyword fun _ => confined.alike n hn
  split
  · exact plain
  · exact plain
  · exact behind rfl
  · exact behind rfl
  · exact behind rfl
  · exact behind rfl
  · exact behind rfl
  · exact behind rfl
  · exact .miss
  · exact plain

theorem takes_joinWords [Shrinks calls] : Takes calls joined.joinWords (· = true) := by
  refine .later fun next => ?_
  split
  · exact .later fun _ => .first .one
  · exact .later fun _ => .first .one
  · exact .first .one
  · exact .first .one
  · exact .first .one
  · exact .first .one
  · exact .first .one
  · exact .first .one
  · exact .miss
  · exact .pure Bool.false_ne_true

instance confined_join : Confined calls tail b joined.join := by
  unfold joined.join
  infer_instance

theorem takes_join [Shrinks calls] : Takes calls joined.join fun o => o.isSome = true := by
  refine .orElse .has <| .orElse .has <| .orElse .has <| .later fun natural => ?_
  exact .orElse takes_joinWords <| .ite (fun _ => .miss) fun _ => .pure Bool.false_ne_true

instance confined_joined : Confined calls tail b joined := by
  have joins : Confined calls tail b (series do
      skipAny [.GLOBAL]
      joined.join) :=
    confined_series (.later fun _ => takes_join)
  unfold joined
  infer_instance

instance confined_tables : Confined calls tail b tables := confined_list

/-! ### Items -/

instance confined_derived : Confined calls tail b derived := by
  unfold derived
  infer_instance

instance confined_nestedJoin : Confined calls tail b nestedJoin := by
  refine ⟨fun n _ => .bind alike_opening fun _ => .step fun j => ?_⟩
  extract_lets alone
  refine .ite (fun _ => .miss) fun _ => ?_
  exact .bind alike_closing fun _ => .step fun _ => .pure fun _ h => h

instance confined_other {p : Phrase (List Expr)} [Confined calls tail b p] :
    Confined calls tail b (tableItem.other p) := by
  unfold tableItem.other
  infer_instance

/-- The word that asks for a reader of its own is passed over. -/
theorem alike_documentTable {n : Nat} {k : Keyword} {p : Phrase Factor} [Confined calls tail 0 p] :
    Alike calls tail (fun ls => Open n ls ∧ documentTable ls = some k) (do anything; p)
      fun _ => Open n := by
  refine .bind (alike_anything (fun ls h => ⟨h.1, ?_⟩) fun _ _ _ h => h) fun _ => .kept
  refine Bool.eq_false_iff.mpr fun stops => ?_
  have asked := h.2
  rw [documentTable, nextKeyword_of_stops stops] at asked
  split at asked <;> cases asked

instance confined_tableItem : Confined calls tail b tableItem := by
  refine ⟨fun n _ => .step fun _ => .ite (fun _ => .kept) fun _ => .step fun _ => ?_⟩
  refine .ite (fun _ => .kept) fun _ => .step fun _ => .ite (fun _ => .step fun d => ?_) fun _ => ?_
  · cases d <;> exact .kept
  refine .step fun _ => .ite (fun _ => .kept) fun _ => ?_
  refine .bind (.ahead fun ls _ => documentTable_before (Enclosing.closing calls)) fun asked => ?_
  split
  · exact alike_documentTable
  · exact alike_documentTable
  · exact alike_documentTable
  · exact Alike.kept.weaken (fun _ h => h.1) fun _ _ h => h

/-! ### Selects -/

instance confined_selectItem : Confined calls tail b selectItem := by
  refine .andThen confined_starOrExpression fun item => ?_
  cases item <;> infer_instance

instance confined_selectItems : Confined calls tail b selectItems := by
  unfold selectItems
  infer_instance

instance confined_top : Confined calls tail b top := by
  unfold top
  infer_instance

instance confined_distinctness : Confined calls tail b distinctness := by
  unfold distinctness
  infer_instance

instance confined_intoTable : Confined calls tail b intoTable := by
  unfold intoTable
  infer_instance

instance confined_lateralView : Confined calls tail b lateralView := by
  unfold lateralView
  infer_instance

instance confined_tuple {lone : Bool} : Confined calls tail b (tuple lone) := by
  unfold tuple
  infer_instance

instance confined_groupKey : Confined calls tail b groupKey := by
  unfold groupKey
  infer_instance

instance confined_groupBy : Confined calls tail b groupBy := by
  unfold groupBy
  infer_instance

instance confined_namedWindow : Confined calls tail b namedWindow := by
  unfold namedWindow
  infer_instance

instance confined_whereClause : Confined calls tail b whereClause := by
  unfold whereClause
  infer_instance

instance confined_windowClause : Confined calls tail b windowsAndCondition.windowClause := by
  unfold windowsAndCondition.windowClause
  infer_instance

instance confined_windowsAndCondition : Confined calls tail b windowsAndCondition := by
  unfold windowsAndCondition
  infer_instance

instance confined_select : Confined calls tail b select := by
  have : Confined calls tail b (series lateralView) := confined_series (.guard .hasAll)
  unfold select
  infer_instance

/-! ### Query bodies -/

instance confined_rows : Confined calls tail b rows := by
  unfold rows
  infer_instance

/-- Two tokens behind a table's name are passed over, or the dot shows where it goes on. -/
theorem alike_wholeTable {n : Nat} :
    Alike calls tail (fun ls => Open n ls ∧ clear .TABLE ls = true) wholeTable fun _ => Open n := by
  have first : Alike calls tail (fun ls => Open n ls ∧ clear .TABLE ls = true) word
      fun _ ls => Open n ls ∧ (marks .dot ls = true ∨
        stops ls = false ∧ stops (ls.drop 1) = false) := by
    refine .one (Enclosing.closing calls) (fun _ l closes => ?_) fun l ls w h found => ?_
    · rw [closes]
    · obtain ⟨t, apart⟩ := l
      cases t with
      | word => exact ⟨h.1.next rfl, by simpa [clear, startsWord] using h.2⟩
      | _ => cases found
  have second : Alike calls tail
      (fun ls => Open n ls ∧ stops ls = false ∧ stops (ls.drop 1) = false) skip
      fun _ ls => Open n ls ∧ stops ls = false :=
    alike_skip (fun _ h => ⟨h.1, h.2.1⟩) fun _ _ h more => ⟨more, h.2.2⟩
  have third : Alike calls tail (fun ls => Open n ls ∧ stops ls = false) skip fun _ => Open n :=
    alike_skip (fun _ h => h) fun _ _ _ more => more
  have mark : Alike calls tail (fun ls => Open n ls ∧ (marks .dot ls = true ∨
      stops ls = false ∧ stops (ls.drop 1) = false)) (mark .dot) fun _ => Open n :=
    Alike.kept.weaken (fun _ h => h.1) fun _ _ h => h
  refine .bind first fun w => .bind (alike_hasMark mark) fun dotted => ?_
  cases dotted with
  | true => exact .step fun _ => .pure fun _ h => h
  | false =>
    refine .bind (second.weaken ?_ fun _ _ h => h) fun _ => .bind third fun _ => .pure fun _ h => h
    rintro ls ⟨⟨here, dot | behind⟩, none⟩
    · exact nomatch dot.symm.trans none
    · exact ⟨here, behind⟩

instance confined_bodyOperand : Confined calls tail b bodyOperand := by
  refine ⟨fun n _ => .step fun _ => .ite (fun _ => .step fun _ => .pure fun _ h => h) fun _ => ?_⟩
  refine .step fun _ => .ite (fun _ => .step fun _ => .pure fun _ h => h) fun _ => ?_
  refine .step fun _ => .ite (fun _ => .step fun _ => .pure fun _ h => h) fun _ => ?_
  exact .bind alike_clear fun _ => .bind alike_wholeTable fun _ => .pure fun _ h => h

instance confined_setOperator : Confined calls tail b setOperator := .token rfl rfl

instance confined_setQuantifier : Confined calls tail b setQuantifier := by
  unfold setQuantifier
  infer_instance

instance confined_bodyAbove {above : Nat} : Confined calls tail b (bodyAbove above) := by
  refine .andThen confined_bodyOperand fun first => .loop (fun left => .andThen confined_setStrength
    fun level => .ite) fun left => .later fun level => .ite (fun _ => .pure Bool.false_ne_true)
    fun _ => .first .one

/-! ### Clauses of a query -/

instance confined_cte : Confined calls tail b cte := by
  unfold cte
  infer_instance

instance confined_offset : Confined calls tail b offset := by
  unfold offset
  infer_instance

instance confined_limit : Confined calls tail b limit := by
  unfold limit
  infer_instance

instance confined_limitAndOffset : Confined calls tail b limitAndOffset := by
  unfold limitAndOffset
  infer_instance

instance confined_fetch : Confined calls tail b fetch := by
  unfold fetch
  infer_instance

instance confined_elementName : Confined calls tail b elementName := confined_unkept

instance confined_asXml : Confined calls tail b asXml := by
  refine .andThen confined_anyOf fun form => ?_
  extract_lets given rest
  have more : ∀ u, Confined calls tail b (rest u) := by
    intro u
    refine .andThen (confined_series ?_) fun _ => .pure
    exact .guard .hasMark
  split
  · exact .andThen confined_elementName more
  · exact .andThen confined_elementName more
  · exact more ()

instance confined_asJson : Confined calls tail b asJson :=
  .andThen confined_anyOf fun _ => .andThen (confined_series (.guard .hasMark)) fun _ => .pure

instance confined_lock : Confined calls tail b lock := by
  unfold lock
  infer_instance

instance confined_locksAndForm : Confined calls tail b locksAndForm :=
  .loop (fun _ => .bind) fun _ => .guard .has

/-! ### Changes -/

instance confined_assignment : Confined calls tail b assignment := by
  unfold assignment
  infer_instance

instance confined_assignments : Confined calls tail b assignments := confined_list

instance confined_returning : Confined calls tail b returning := confined_after

instance confined_orElse : Confined calls tail b orElse := by
  unfold orElse
  infer_instance

instance confined_fileFormat : Confined calls tail b fileFormat := confined_unkept

instance confined_conflict : Confined calls tail b conflict := by
  unfold conflict
  infer_instance

instance confined_tableInsertion : Confined calls tail b tableInsertion := by
  have : Confined calls tail b (.ahead fun ls => opens .round ls && spells .SELECT (ls.drop 1)) :=
    .unseen calls fun h => both_before rfl (opens_before h) fun _ => spells_before h
  unfold tableInsertion
  infer_instance

instance confined_fileInsertion : Confined calls tail b fileInsertion := by
  unfold fileInsertion
  infer_instance

instance confined_insertion : Confined calls tail b insertion := by
  unfold insertion
  infer_instance

instance confined_insertionBody : Confined calls tail b insertionBody := by
  refine .andThen confined_insertion fun given => ?_
  cases given <;> infer_instance

instance confined_updating : Confined calls tail b updating := by
  refine .andThen confined_orElse fun _ => .andThen confined_joined fun target =>
    .andThen confined_has
    fun _ => ?_
  extract_lets rest
  have others : ∀ before, Confined calls tail b (rest before) := by
    intro before
    cases before <;> infer_instance
  exact .either (.andThen confined_tables fun _ => .andThen .pure others) (.andThen .pure others)

instance confined_deletion : Confined calls tail b deletion := by
  unfold deletion
  infer_instance

instance confined_mergeInsertion : Confined calls tail b mergeInsertion := by
  unfold mergeInsertion
  infer_instance

instance confined_mergeChange : Confined calls tail b mergeChange := by
  unfold mergeChange
  infer_instance

instance confined_mergeCase : Confined calls tail b mergeCase := by
  unfold mergeCase
  infer_instance

instance confined_mergeOutput : Confined calls tail b mergeOutput := by
  unfold mergeOutput
  infer_instance

instance confined_merging : Confined calls tail b merging := by
  have cases : Confined calls tail b (series do
      if ← has .WHEN then return some (← mergeCase) else return none) :=
    confined_series (.guard .has)
  unfold merging
  infer_instance

instance confined_wholeQuery : Confined calls tail b
    (wholeQuery insertionBody updating (do let _ ← deletion; return []) merging) := by
  unfold wholeQuery
  infer_instance

/-! ### Columns -/

instance confined_bound {k : Keyword} : Confined calls tail b (sequenceOptions.bound k) := by
  unfold sequenceOptions.bound
  infer_instance

instance confined_sequenceOptions : Confined calls tail b sequenceOptions := by
  unfold sequenceOptions
  infer_instance

instance confined_identity : Confined calls tail b identity := confined_unkept

instance confined_referentialAction : Confined calls tail b referentialAction := by
  unfold referentialAction
  infer_instance

instance confined_action {ks : List Keyword} : Confined calls tail b (references.action ks) := by
  unfold references.action
  infer_instance

instance confined_checkTime : Confined calls tail b checkTime := by
  refine .andThen (confined_eachOnce ?_ ?_) fun _ => .pure
  · exact List.forall_mem_cons.mpr ⟨inferInstance, List.forall_mem_cons.mpr ⟨inferInstance,
      List.forall_mem_cons.mpr ⟨inferInstance, List.forall_mem_nil _⟩⟩⟩
  · refine List.forall_mem_cons.mpr ⟨.presence (.hasOneOf (by simp)), List.forall_mem_cons.mpr
      ⟨.presence (.orElse .has (.pure Bool.false_ne_true)), List.forall_mem_cons.mpr
        ⟨.presence (.hasOneOf (by simp)), List.forall_mem_nil _⟩⟩⟩

instance confined_references : Confined calls tail b references := by
  refine .andThen confined_name fun _ => .andThen confined_columnsIfAny fun _ =>
    .andThen (confined_eachOnce ?_ ?_) fun _ => confined_checkTime
  · exact List.forall_mem_cons.mpr ⟨inferInstance, List.forall_mem_cons.mpr ⟨inferInstance,
      List.forall_mem_cons.mpr ⟨inferInstance, List.forall_mem_nil _⟩⟩⟩
  · have nothing : Takes calls (pure false) (· = true) := .pure Bool.false_ne_true
    exact List.forall_mem_cons.mpr ⟨.presence (.orElse .has nothing), List.forall_mem_cons.mpr
      ⟨.presence (.orElse .hasAll nothing), List.forall_mem_cons.mpr
        ⟨.presence (.orElse .hasAll nothing), List.forall_mem_nil _⟩⟩⟩

instance confined_freely {p : Phrase Expr} [Confined calls tail b p] :
    Confined calls tail b (freely p) := by
  unfold freely
  infer_instance

instance confined_defaultValue : Confined calls tail b defaultValue := by
  unfold defaultValue
  infer_instance

instance confined_generated : Confined calls tail b generated := by
  unfold generated
  infer_instance

instance confined_nothingOf {α : Type} {p : Phrase α} [Confined calls tail b p] :
    Confined calls tail b (columnOption.nothingOf p) := by
  unfold columnOption.nothingOf
  infer_instance

instance confined_columnOption : Confined calls tail b columnOption := by
  refine .andThen confined_hasAll fun _ => .either confined_nothingOf ?_
  refine .andThen confined_has fun _ => .either confined_nothingOf ?_
  refine .andThen confined_hasAll fun _ => .either .pure ?_
  refine .andThen confined_has fun _ => .either confined_nothingOf ?_
  refine .andThen confined_has fun _ => .either .pure ?_
  refine .andThen confined_has fun _ => .either .bind ?_
  refine .andThen confined_hasOneOf fun _ => .either confined_nothingOf ?_
  refine .andThen confined_has fun _ => .either confined_nothingOf ?_
  refine .andThen confined_has fun _ => .either .bind ?_
  infer_instance

theorem takes_columnOption [Shrinks calls] :
    Takes calls columnOption fun o => o.isSome = true := by
  refine .orElse .hasAll <| .orElse .has <| .orElse .hasAll <| .orElse .has <| .orElse .has <|
    .orElse .has <| .orElse (.hasOneOf (by simp)) <| .orElse .has <| .orElse .has ?_
  refine .later fun _ => .later fun _ => .later fun _ => .later fun _ => .later fun _ => ?_
  refine .orElse .has <| .later fun _ => .later fun _ => .later fun _ => ?_
  exact .orElse .has (.pure Bool.false_ne_true)

instance confined_columnDefinition : Confined calls tail b columnDefinition := by
  have named : Confined calls tail b (do
      let _ ← ident
      match ← columnOption with
      | some found => return some found
      | none => .miss : Phrase (Option (List Expr))) := by
    refine .andThen confined_ident fun _ => .andThen confined_columnOption fun o => ?_
    cases o <;> infer_instance
  refine .andThen confined_ident fun _ => .andThen confined_typeParts fun parts => ?_
  refine .andThen (confined_series ?_) fun _ => .pure
  exact .orElse .has takes_columnOption

/-! ### Rules -/

theorem confined_phraseOf {r : Rule} (inner : r.isInner = true) :
    Confined calls tail b (phraseOf r) := by
  cases r with
  | statement | options => cases inner
  | query => exact confined_wholeQuery
  | body above => exact confined_bodyAbove
  | expression above => exact confined_expressionAbove
  | operand => exact confined_wholeOperand
  | table => exact confined_tableItem
  | dataType => exact confined_wholeDataType
  | column => exact confined_columnDefinition
  | jsonColumn => exact confined_jsonTableColumn

omit [Enclosing calls tail] in
/-- **Every rule but the statement and its options reads a row whose brackets match as it
reads it in front of a closing bracket.** -/
theorem enclosing_rules (closing : closes .round tail = true) (fuel levels : Nat) :
    Enclosing (Rule.read phraseOf fuel levels) tail where
  closing := closing
  alike := by
    intro r inner n
    induction fuel generalizing levels r n with
    | zero => exact fun _ _ _ => rfl
    | succ fuel ih =>
      have enclosing (levels : Nat) : Enclosing (Rule.read phraseOf fuel levels) tail :=
        ⟨closing, fun inner n => ih levels inner n⟩
      intro place ls h
      show Agrees tail _ (Rule.read phraseOf (fuel + 1) levels r place ls)
        (Rule.read phraseOf (fuel + 1) levels r place (ls ++ tail))
      unfold Rule.read
      split
      · cases levels with
        | zero => rfl
        | succ levels => exact (confined_phraseOf inner).alike n (Nat.le_refl n) place ls h
      · exact (confined_phraseOf inner).alike n (Nat.le_refl n) place ls h

end QueryGateway.Sql
