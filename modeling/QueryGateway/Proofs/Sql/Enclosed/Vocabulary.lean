import QueryGateway.Proofs.Sql.Enclosed.Reading

/-! The vocabulary of the grammar in front of a closing bracket.

What looks ahead cannot tell the bracket from the end of the text, and what takes a token
does not take the bracket. -/
namespace QueryGateway.Sql

open Phrase Grammar

/-! ### Looking ahead -/

section Ahead

variable {tail ls : List Lexeme} (closed : closes .round tail = true)
include closed

theorem exists_closing : ∃ apart more, tail = ⟨.closing .round, apart⟩ :: more := by
  match tail, closed with
  | ⟨t, apart⟩ :: more, closed =>
    have same : t = .closing .round := by simpa [closes, next?] using closed
    exact ⟨apart, more, by rw [same]⟩

theorem next?_before : next? (ls ++ tail) = some ((next? ls).getD (.closing .round)) := by
  obtain ⟨apart, more, rfl⟩ := exists_closing closed
  cases ls <;> rfl

omit closed in
theorem nextKeyword_of_stops (h : stops ls = true) : nextKeyword ls = none := by
  cases ls with
  | nil => rfl
  | cons l ls =>
    obtain ⟨t, _⟩ := l
    cases t with
    | word => cases h
    | _ => rfl

theorem nextKeyword_before : nextKeyword (ls ++ tail) = nextKeyword ls := by
  rw [nextKeyword, nextKeyword, next?_before closed]
  cases next? ls <;> rfl

theorem spells_before {k : Keyword} : spells k (ls ++ tail) = spells k ls := by
  rw [spells, spells, nextKeyword_before closed]

theorem spellsAny_before {ks : List Keyword} : spellsAny ks (ls ++ tail) = spellsAny ks ls := by
  simp only [spellsAny, spells_before closed]

theorem spellsAll_before {ks : List Keyword} : spellsAll ks (ls ++ tail) = spellsAll ks ls := by
  induction ks generalizing ls with
  | nil => rfl
  | cons k ks ih =>
    rw [spellsAll, spellsAll, spells_before closed]
    cases ls with
    | nil => rfl
    | cons l ls => exact congrArg (spells k (l :: ls) && ·) ih

theorem marks_before {s : Symbol} : marks s (ls ++ tail) = marks s ls := by
  rw [marks, marks, next?_before closed]
  cases next? ls <;> rfl

theorem opens_before {k : Bracket} : opens k (ls ++ tail) = opens k ls := by
  rw [opens, opens, next?_before closed]
  cases next? ls <;> rfl

theorem opened?_before : opened? (ls ++ tail) = opened? ls := by
  rw [opened?, opened?, next?_before closed]
  cases next? ls <;> rfl

theorem closesSquare_before : closes .square (ls ++ tail) = closes .square ls := by
  rw [closes, closes, next?_before closed]
  cases next? ls <;> rfl

theorem startsWord_before : startsWord (ls ++ tail) = startsWord ls := by
  obtain ⟨apart, more, rfl⟩ := exists_closing closed
  rcases ls with _ | ⟨⟨t, _⟩, _⟩
  · rfl
  · cases t <;> rfl

theorem startsString_before : startsString (ls ++ tail) = startsString ls := by
  obtain ⟨apart, more, rfl⟩ := exists_closing closed
  rcases ls with _ | ⟨⟨t, _⟩, _⟩
  · rfl
  · cases t with
    | string how => cases how <;> rfl
    | _ => rfl

theorem startsFiller_before :
    overflowClause.startsFiller (ls ++ tail) = overflowClause.startsFiller ls := by
  obtain ⟨apart, more, rfl⟩ := exists_closing closed
  rcases ls with _ | ⟨⟨t, _⟩, _⟩
  · rfl
  · cases t <;> rfl

theorem setStrength_before : setStrength (ls ++ tail) = setStrength ls := by
  rw [setStrength, setStrength, nextKeyword_before closed]

theorem wordStrength_before {place : Place} {k : Keyword} :
    wordStrength place k (ls ++ tail) = wordStrength place k ls := by
  unfold wordStrength
  rw [spellsAll_before closed, nextKeyword_before closed]

theorem strength_before {place : Place} : strength place (ls ++ tail) = strength place ls := by
  cases ls with
  | nil =>
    obtain ⟨apart, more, rfl⟩ := exists_closing closed
    rfl
  | cons l ls =>
    unfold strength
    simp only [List.cons_append, List.drop_one, List.tail_cons, wordStrength_before closed, next?,
      List.head?_cons]

theorem documentTable_before : documentTable (ls ++ tail) = documentTable ls := by
  rw [documentTable, documentTable, nextKeyword_before closed]
  cases ls with
  | nil => simp [nextKeyword, next?]
  | cons l ls =>
    rw [List.cons_append, List.drop_one, List.tail_cons, List.drop_one, List.tail_cons,
      opens_before closed]

omit closed in
theorem chain_of_other {l : Lexeme} (other : l.token ≠ .symbol .dot) :
    chain (l :: ls) = .ended := by
  unfold chain
  split
  case h_1 same =>
    cases same
    exact (other rfl).elim
  case h_2 same =>
    cases same
    exact (other rfl).elim
  case h_3 => rfl

theorem chain_before : chain (ls ++ tail) = chain ls := by
  obtain ⟨apart, more, rfl⟩ := exists_closing closed
  fun_induction chain ls with
  | case7 ls none alone =>
    rcases ls with _ | ⟨⟨t, apart'⟩, ls⟩
    · rfl
    · refine chain_of_other ?_
      rintro rfl
      cases ls with
      | nil => exact alone apart' rfl
      | cons => exact none apart' _ _ _ rfl
  | _ => simp_all [chain]

theorem chainAhead_before : chainAhead (ls ++ tail) = chainAhead ls := by
  have rest {ls : List Lexeme} : chain (ls ++ tail) = chain ls := chain_before closed
  obtain ⟨apart, more, rfl⟩ := exists_closing closed
  rcases ls with _ | ⟨⟨t, _⟩, ls⟩
  · rfl
  · cases t with
    | word => exact rest
    | string how =>
      cases how with
      | plain => exact rest
      | _ => rfl
    | _ => rfl

omit closed in
theorem startsStar_eq : startsStar ls = (marks .star ls ||
    opens .round ls && (marks .star (ls.drop 1) && closes .round (ls.drop 2))) := by
  rcases ls with _ | ⟨⟨t, _⟩, _ | ⟨⟨t', _⟩, _ | ⟨⟨t'', _⟩, ls⟩⟩⟩
  case nil => rfl
  all_goals
    cases t with
    | symbol s => cases s <;> rfl
    | opening k => ?_
    | _ => rfl
  case cons.nil => cases k <;> rfl
  all_goals
    cases t' with
    | symbol s => ?_
    | _ => cases k <;> rfl
  case cons.cons.nil => cases k <;> cases s <;> rfl
  cases t'' with
  | closing b => cases k <;> cases s <;> cases b <;> rfl
  | _ => cases k <;> cases s <;> rfl

omit closed in
theorem chainAhead_of_stops (h : stops ls = true) : chainAhead ls = .ended := by
  cases ls with
  | nil => rfl
  | cons l ls =>
    obtain ⟨t, _⟩ := l
    cases t with
    | word | string => cases h
    | _ => rfl

/-- A bracket that opens before a star closes in the row itself. -/
theorem startsStar_before {n : Nat} (h : Open n ls) :
    startsStar (ls ++ tail) = startsStar ls := by
  rw [startsStar_eq, startsStar_eq, marks_before closed, opens_before closed]
  rcases ls with _ | ⟨l, _ | ⟨l', _ | ⟨l'', ls⟩⟩⟩
  · rfl
  · have other : marks .star tail = false := by
      obtain ⟨apart, more, rfl⟩ := exists_closing closed
      rfl
    show (_ || _ && (marks .star tail && _)) = _
    rw [other]
    rfl
  · have unmatched : (opens .round [l, l'] && marks .star [l']) = false := by
      refine Bool.eq_false_iff.mpr fun opened => ?_
      obtain ⟨first, second⟩ : l.token = .opening .round ∧ l'.token = .symbol .star := by
        simpa [opens, marks, next?] using opened
      have rest := (h.opening first).next (by rw [second]; rfl)
      exact rest.ne_nil rfl
    show (_ || _ && (marks .star [l'] && _)) = (_ || _ && (marks .star [l'] && _))
    rw [← Bool.and_assoc, ← Bool.and_assoc, unmatched]
    rfl
  · rfl

omit closed in
/-- What is looked for behind a token that is not there is not looked for in `tail`. -/
theorem both_before {f g : List Lexeme → Bool} (first : f [] = false)
    (hf : f (ls ++ tail) = f ls) (hg : ∀ ls, g (ls ++ tail) = g ls) :
    (f (ls ++ tail) && g ((ls ++ tail).drop 1)) = (f ls && g (ls.drop 1)) := by
  rw [hf]
  cases ls with
  | nil => rw [first, Bool.false_and, Bool.false_and]
  | cons l ls => exact congrArg (f (l :: ls) && ·) (hg ls)

end Ahead

/-! ### The vocabulary of the grammar -/

section Vocabulary

variable {calls : Reader} {tail : List Lexeme} [Enclosing calls tail] {b : Nat} {α β : Type}

theorem Confined.call {r : Rule} (inner : r.isInner = true) : Confined calls tail b (.call r) :=
  ⟨fun n _ => Enclosing.alike inner n⟩

theorem Confined.one {f : Lexeme → Option α}
    (refuses : ∀ l : Lexeme, l.token.isRound = true → f l = none) :
    Confined calls tail b (.one f) where
  alike n _ := by
    refine .one (Enclosing.closing calls) (fun _ l closes => refuses l (by rw [closes]; rfl))
      fun l ls a h found => h.next (Bool.eq_false_iff.mpr fun round => ?_)
    exact nomatch (refuses l round).symm.trans found

theorem Confined.token {f : Token → Option α} (refusesOpening : f (.opening .round) = none)
    (refusesClosing : f (.closing .round) = none) : Confined calls tail b (token f) := by
  refine one fun l round => ?_
  obtain ⟨t, _⟩ := l
  cases t with
  | opening k =>
    cases k with
    | round => exact refusesOpening
    | _ => cases round
  | closing k =>
    cases k with
    | round => exact refusesClosing
    | _ => cases round
  | _ => cases round

/-- A choice that comes out as none. -/
class IsNone (o : Option α) : Prop where
  eq : o = none

instance : IsNone (none : Option α) := ⟨rfl⟩

instance confined_token {f : Token → Option α} [refusesOpening : IsNone (f (.opening .round))]
    [refusesClosing : IsNone (f (.closing .round))] : Confined calls tail b (Grammar.token f) :=
  .token refusesOpening.eq refusesClosing.eq

instance confined_expect {k : Keyword} : Confined calls tail b (expect k) := .token rfl rfl

instance confined_anyOf {ks : List Keyword} : Confined calls tail b (anyOf ks) := .token rfl rfl

instance confined_mark {s : Symbol} : Confined calls tail b (mark s) := .token rfl rfl

instance confined_opening_square : Confined calls tail b (opening .square) := .token rfl rfl

instance confined_opening_curly : Confined calls tail b (opening .curly) := .token rfl rfl

instance confined_closing_square : Confined calls tail b (closing .square) := .token rfl rfl

instance confined_closing_curly : Confined calls tail b (closing .curly) := .token rfl rfl

instance confined_expectAll {ks : List Keyword} : Confined calls tail b (expectAll ks) := by
  induction ks with
  | nil => exact .give
  | cons k ks ih => exact .bind

instance confined_has {k : Keyword} : Confined calls tail b (has k) := by
  unfold has
  infer_instance

instance confined_hasAll {ks : List Keyword} : Confined calls tail b (hasAll ks) := by
  unfold hasAll
  infer_instance

instance confined_skipAll {ks : List Keyword} : Confined calls tail b (skipAll ks) := by
  unfold skipAll
  infer_instance

instance confined_hasAny {ks : List Keyword} : Confined calls tail b (hasAny ks) := by
  unfold hasAny
  infer_instance

instance confined_skipAny {ks : List Keyword} : Confined calls tail b (skipAny ks) := by
  unfold skipAny
  infer_instance

instance confined_hasOneOf {kss : List (List Keyword)} : Confined calls tail b (hasOneOf kss) := by
  induction kss with
  | nil => exact .give
  | cons ks kss ih =>
    unfold hasOneOf
    infer_instance

instance confined_hasMark {s : Symbol} : Confined calls tail b (hasMark s) := by
  unfold hasMark
  infer_instance

instance confined_hasClosing : Confined calls tail b (hasClosing .square) := by
  unfold hasClosing
  infer_instance

/-! ### What looks ahead -/

variable (calls) in
theorem Confined.unseen {f : List Lexeme → α}
    (h : ∀ {ls}, closes .round tail = true → f (ls ++ tail) = f ls) :
    Confined calls tail b (.ahead f) :=
  .ahead fun _ _ _ _ => h (Enclosing.closing calls)

instance confined_spells {k : Keyword} : Confined calls tail b (.ahead (spells k)) :=
  .unseen calls fun h => spells_before h

instance confined_spellsAny {ks : List Keyword} : Confined calls tail b (.ahead (spellsAny ks)) :=
  .unseen calls fun h => spellsAny_before h

instance confined_startsQuery : Confined calls tail b (.ahead startsQuery) := confined_spellsAny

instance confined_spellsAll {ks : List Keyword} : Confined calls tail b (.ahead (spellsAll ks)) :=
  .unseen calls fun h => spellsAll_before h

instance confined_marks {s : Symbol} : Confined calls tail b (.ahead (marks s)) :=
  .unseen calls fun h => marks_before h

instance confined_opens {k : Bracket} : Confined calls tail b (.ahead (opens k)) :=
  .unseen calls fun h => opens_before h

instance confined_opened : Confined calls tail b (.ahead opened?) := .unseen calls opened?_before

instance confined_closesSquare : Confined calls tail b (.ahead (closes .square)) :=
  .unseen calls closesSquare_before

/-- Within a bracket the row has not ended. -/
instance confined_closesHere : Confined calls tail 1 (.ahead (closes .round)) := by
  refine .ahead fun n ls hn h => ?_
  cases ls with
  | nil =>
    obtain ⟨n, rfl⟩ := Nat.exists_eq_add_of_le' hn
    exact (h.ne_nil rfl).elim
  | cons => rfl

instance confined_nextKeyword : Confined calls tail b (.ahead nextKeyword) :=
  .unseen calls nextKeyword_before

instance confined_startsWord : Confined calls tail b (.ahead startsWord) :=
  .unseen calls startsWord_before

instance confined_startsString : Confined calls tail b (.ahead startsString) :=
  .unseen calls startsString_before

instance confined_startsFiller : Confined calls tail b (.ahead overflowClause.startsFiller) :=
  .unseen calls startsFiller_before

instance confined_strength {place : Place} : Confined calls tail b (.ahead (strength place)) :=
  .unseen calls fun h => strength_before h

instance confined_setStrength : Confined calls tail b (.ahead setStrength) :=
  .unseen calls setStrength_before

instance confined_chainAhead : Confined calls tail b (.ahead chainAhead) :=
  .unseen calls chainAhead_before

instance confined_startsStar : Confined calls tail b (.ahead startsStar) :=
  .ahead fun _ _ _ => startsStar_before (Enclosing.closing calls)

/-! ### Brackets and repetition -/

section Alike

variable {n : Nat} {I : List Lexeme → Prop}

theorem alike_opening :
    Alike calls tail (Open n) (opening .round) fun _ => Open (n + 1) := by
  refine .one (Enclosing.closing calls) (fun _ l closes => ?_) fun l ls _ h found => ?_
  · rw [closes]
    rfl
  · exact h.opening (by simpa using found)

theorem alike_closing :
    Alike calls tail (Open (n + 1)) (closing .round) fun _ => Open n := by
  refine .one (Enclosing.closing calls) (fun h => (h.ne_nil rfl).elim) fun l ls _ h found => ?_
  exact h.closing (by simpa using found)

theorem alike_series {p : Phrase (Option α)} (turn : Alike calls tail I p fun _ => I)
    (takes : Takes calls p fun o => o.isSome = true) :
    Alike calls tail I (series p) fun _ => I := by
  refine .bind (Q := fun _ => I) (.loop (I := fun _ => I) (fun found => ?_) fun found => ?_)
    fun _ => .pure fun _ h => h
  · refine .bind turn fun o => .pure fun ls h => ?_
    cases o <;> exact h
  · exact takes.bind fun o none => .pure (by simpa using none)

end Alike

omit [Enclosing calls tail] in
theorem Alike.kept {n : Nat} {p : Phrase α} [h : Confined calls tail 0 p] :
    Alike calls tail (Open n) p fun _ => Open n :=
  h.alike n (Nat.zero_le n)

omit [Enclosing calls tail] in
/-- A phrase that keeps brackets, and what follows it. -/
theorem Alike.step {n : Nat} {p : Phrase α} {f : α → Phrase β} {Q : β → List Lexeme → Prop}
    [h : Confined calls tail 0 p] (hf : ∀ a, Alike calls tail (Open n) (f a) Q) :
    Alike calls tail (Open n) (p >>= f) Q :=
  .bind .kept hf

/-- Brackets around a phrase are open within it. -/
instance confined_paren {p : Phrase α} [h : Confined calls tail 1 p] :
    Confined calls tail b (paren p) where
  alike n _ := .bind alike_opening fun _ => .bind (h.alike (n + 1) (Nat.le_add_left ..)) fun _ =>
    .bind alike_closing fun _ => .pure fun _ h => h

theorem confined_series {p : Phrase (Option α)} [h : Confined calls tail b p]
    (takes : Takes calls p fun o => o.isSome = true) : Confined calls tail b (series p) :=
  ⟨fun n hn => alike_series (h.alike n hn) takes⟩

theorem confined_many {p : Phrase α} [Confined calls tail b p]
    (takes : Takes calls p fun _ => True) :
    Confined calls tail b (many p) :=
  confined_series takes.attempt

theorem confined_separated {between : Phrase Bool} {p : Phrase α} [Confined calls tail b between]
    [Confined calls tail b p] (takes : Takes calls between (· = true)) :
    Confined calls tail b (separated between p) := by
  have : Confined calls tail b _ := confined_series (takes.guard (q := do return some (← p)))
  unfold separated
  infer_instance

instance confined_separatedByWord {k : Keyword} {p : Phrase α} [Confined calls tail b p] :
    Confined calls tail b (separated (has k) p) :=
  confined_separated .has

instance confined_list {p : Phrase α} [Confined calls tail b p] : Confined calls tail b (list p) :=
  confined_separated .hasMark

instance confined_listOrNone {p : Phrase α} [Confined calls tail 1 p] :
    Confined calls tail 1 (listOrNone .round p) := by
  unfold listOrNone
  infer_instance

instance confined_listOrNoneInSquare {p : Phrase α} [Confined calls tail b p] :
    Confined calls tail b (listOrNone .square p) := by
  unfold listOrNone
  infer_instance

instance confined_parenIfAny {p : Phrase α} [Confined calls tail 1 p] :
    Confined calls tail b (parenIfAny p) := by
  unfold parenIfAny
  infer_instance

instance confined_parenList {p : Phrase α} [Confined calls tail 1 p] :
    Confined calls tail b (parenList p) :=
  confined_paren

instance confined_parenListOrNone {p : Phrase α} [Confined calls tail 1 p] :
    Confined calls tail b (parenListOrNone p) :=
  confined_paren

instance confined_after {k : Keyword} {p : Phrase (List α)} [Confined calls tail b p] :
    Confined calls tail b (after k p) := by
  unfold after
  infer_instance

instance confined_afterAll {ks : List Keyword} {p : Phrase (List α)} [Confined calls tail b p] :
    Confined calls tail b (afterAll ks p) := by
  unfold afterAll
  infer_instance

instance confined_aside {k : Keyword} {p : Phrase α} [Confined calls tail b p] :
    Confined calls tail b (aside k p) := by
  unfold aside
  infer_instance

instance confined_asideAll {ks : List Keyword} {p : Phrase α} [Confined calls tail b p] :
    Confined calls tail b (asideAll ks p) := by
  unfold asideAll
  infer_instance

instance confined_unkept {p : Phrase α} [Confined calls tail b p] :
    Confined calls tail b (unkept p) := by
  unfold unkept
  infer_instance

instance confined_presence {p : Phrase Bool} [Confined calls tail b p] :
    Confined calls tail b (presence p) := by
  unfold presence
  infer_instance

/-- Alternatives in any order that each take something if they come next. -/
theorem confined_eachOnce {ps : List (Phrase (Option α))}
    (confined : ∀ p ∈ ps, Confined calls tail b p)
    (takes : ∀ p ∈ ps, Takes calls p fun o => o.isSome = true) :
    Confined calls tail b (eachOnce ps) := by
  have unused (used : List Nat) (i : Nat) : Confined calls tail b (firstUnused used i ps) ∧
      Takes calls (firstUnused used i ps) fun o => o.isSome = true := by
    induction ps generalizing i with
    | nil => exact ⟨.give, .pure Bool.false_ne_true⟩
    | cons p ps ih =>
      have first := confined p List.mem_cons_self
      obtain ⟨others, taken⟩ := ih (fun p hp => confined p (List.mem_cons_of_mem _ hp))
        (fun p hp => takes p (List.mem_cons_of_mem _ hp)) (i + 1)
      constructor
      · refine @Confined.ite _ _ _ _ _ _ _ _ others (.andThen first fun o => ?_)
        cases o with
        | none => exact others
        | some => exact .pure
      · refine .ite (fun _ => taken) fun _ => (takes p List.mem_cons_self).bind fun o none => ?_
        cases o with
        | none => exact taken
        | some => exact (none rfl).elim
  have turn (found : List (Nat × α)) : Confined calls tail b (do
      return (← firstUnused (found.map (·.1)) 0 ps).map (· :: found)) :=
    .andThen (unused _ _).1 fun _ => .pure
  refine .andThen (.loop turn fun found => ?_) fun _ => .pure
  refine (unused _ _).2.bind fun o none => .pure ?_
  cases o with
  | none => exact Bool.false_ne_true
  | some => exact (none rfl).elim

/-! ### Names and literals -/

instance confined_ident : Confined calls tail b ident := .token rfl rfl

instance confined_word : Confined calls tail b word := .token rfl rfl

instance confined_name : Confined calls tail b name := confined_separated .hasMark

instance confined_idents : Confined calls tail b idents := confined_unkept

instance confined_names : Confined calls tail b names := confined_list

instance confined_columns : Confined calls tail b columns := confined_unkept

instance confined_columnsIfAny : Confined calls tail b columnsIfAny := confined_unkept

instance confined_reference : Confined calls tail b constant.reference :=
  .one fun ⟨t, _⟩ round => by
    cases t with
    | word | number => cases round
    | _ => rfl

instance confined_constant : Confined calls tail b constant := by
  unfold constant
  infer_instance

instance confined_numeral : Confined calls tail b numeral :=
  .andThen confined_constant fun
    | .number | .placeholder => .pure
    | .text | .coded | .truth | .null => .miss

instance confined_signedNumeral : Confined calls tail b signedNumeral := by
  unfold signedNumeral
  infer_instance

instance confined_text : Confined calls tail b text := .token rfl rfl

instance confined_literalText : Confined calls tail b literalText := confined_unkept

instance confined_remark : Confined calls tail b remark := .token rfl rfl

instance confined_size : Confined calls tail b size := .token rfl rfl

instance confined_query : Confined calls tail b query := .call rfl

instance confined_body {above : Nat} : Confined calls tail b (body above) := .call rfl

instance confined_operandOf {above : Nat} : Confined calls tail b (operandOf above) := .call rfl

instance confined_expression : Confined calls tail b expression := .call rfl

instance confined_expressions : Confined calls tail b expressions := confined_list

instance confined_operand : Confined calls tail b operand := .call rfl

instance confined_table : Confined calls tail b table := .call rfl

instance confined_column : Confined calls tail b column := .call rfl

instance confined_dataType : Confined calls tail b dataType :=
  .andThen (.call rfl) fun _ => .either .miss .pure

instance confined_typeParts : Confined calls tail b typeParts := by
  unfold typeParts
  infer_instance

/-! ### Tokens taken whatever they are -/

section Anything

variable {n : Nat}

/-- A token is taken where no bracket stands. -/
theorem alike_anything {P Q : List Lexeme → Prop}
    (first : ∀ ls, P ls → Open n ls ∧ stops ls = false)
    (rest : ∀ l ls, P (l :: ls) → Open n ls → Q ls) :
    Alike calls tail P anything fun _ => Q := by
  refine .one (Enclosing.closing calls) (fun h => nomatch (first _ h).2) fun l ls _ h _ => ?_
  obtain ⟨here, other⟩ := first _ h
  exact rest l ls h (here.next other)

/-- A keyword that was seen is taken. -/
theorem alike_keyword {k : Keyword} :
    Alike calls tail (fun ls => Open n ls ∧ nextKeyword ls = some k) anything fun _ => Open n := by
  refine alike_anything (fun ls h => ⟨h.1, Bool.eq_false_iff.mpr fun stops => ?_⟩) fun _ _ _ h => h
  exact nomatch (nextKeyword_of_stops stops).symm.trans h.2

/-- A token is skipped where no bracket stands. -/
theorem alike_skip {P Q : List Lexeme → Prop} (first : ∀ ls, P ls → Open n ls ∧ stops ls = false)
    (rest : ∀ l ls, P (l :: ls) → Open n ls → Q ls) :
    Alike calls tail P skip fun _ => Q := by
  refine .bind (alike_anything first rest).attempt fun taken => .pure fun ls h => ?_
  cases taken with
  | some => exact h
  | none =>
    obtain ⟨here, place, missed⟩ := h
    cases ls with
    | nil => exact nomatch (first [] here).2
    | cons => cases missed

/-- Behind a dot no bracket stands. -/
theorem alike_dot :
    Alike calls tail (Open n) (mark .dot) fun _ ls => Open n ls ∧ stops ls = false := by
  refine .one (Enclosing.closing calls) (fun _ l closes => ?_) fun l ls _ h found => ?_
  · rw [closes]
    rfl
  · have dot : l.token = .symbol .dot := by simpa using found
    refine ⟨h.next (by rw [dot]; rfl), ?_⟩
    have spares := h.spares
    rw [QueryGateway.Sql.spares, dot] at spares
    simpa using spares

/-- What stands behind a keyword, no bracket being passed over. -/
theorem alike_clear {k : Keyword} :
    Alike calls tail (Open n) (expect k) fun _ ls => Open n ls ∧ clear k ls = true := by
  refine .one (Enclosing.closing calls) (fun _ l closes => ?_) fun l ls _ h found => ?_
  · rw [closes]
    rfl
  · have keyword : l.token.keyword = some k := by simpa using found
    obtain ⟨t, apart⟩ := l
    cases t with
    | word w =>
      refine ⟨h.next rfl, ?_⟩
      have spares := h.spares
      have same : w.keyword = some k := keyword
      simpa [QueryGateway.Sql.spares, Token.keyword, same] using spares
    | _ => cases keyword

/-- What stands behind a bracket that opens. -/
theorem alike_openingBefore {R : List Lexeme → Prop} :
    Alike calls tail (fun ls => Open n ls ∧ (opens .round ls = true → R (ls.drop 1)))
      (opening .round) fun _ ls => Open (n + 1) ls ∧ R ls := by
  refine .one (Enclosing.closing calls) (fun _ l closes => ?_) fun l ls _ h found => ?_
  · rw [closes]
    rfl
  · have opening : l.token = .opening .round := by simpa using found
    exact ⟨h.1.opening opening, h.2 (by simp [opens, next?, opening])⟩

omit [Enclosing calls tail] in
/-- What holds behind a token that was taken, or where none was. -/
theorem alike_isSome {P Q : List Lexeme → Prop} {p : Phrase Unit}
    (taken : Alike calls tail P p fun _ => Q) :
    Alike calls tail P (do return (← attempt p).isSome) fun found ls =>
      if found = true then Q ls else P ls ∧ ∃ place, p.read calls place ls = .mismatch := by
  refine .bind taken.attempt fun o => .pure fun ls h => ?_
  cases o <;> exact h

omit [Enclosing calls tail] in
theorem alike_hasMark {P Q : List Lexeme → Prop} {s : Symbol}
    (taken : Alike calls tail P (mark s) fun _ => Q) :
    Alike calls tail P (hasMark s) fun found ls =>
      if found = true then Q ls else P ls ∧ marks s ls = false := by
  refine (alike_isSome taken).weaken (fun _ h => h) fun found ls h => ?_
  cases found with
  | true => exact h
  | false =>
    obtain ⟨here, place, missed⟩ := h
    refine ⟨here, Bool.eq_false_iff.mpr fun marked => ?_⟩
    cases ls with
    | nil => cases marked
    | cons l ls =>
      have same : l.token = .symbol s := by simpa [marks, next?] using marked
      simp [mark, token, Phrase.read, same] at missed

omit [Enclosing calls tail] in
theorem alike_has {P Q : List Lexeme → Prop} {k : Keyword}
    (taken : Alike calls tail P (expect k) fun _ => Q) :
    Alike calls tail P (has k) fun found ls =>
      if found = true then Q ls else P ls ∧ spells k ls = false := by
  refine (alike_isSome taken).weaken (fun _ h => h) fun found ls h => ?_
  cases found with
  | true => exact h
  | false =>
    obtain ⟨here, place, missed⟩ := h
    refine ⟨here, Bool.eq_false_iff.mpr fun spelled => ?_⟩
    cases ls with
    | nil => cases spelled
    | cons l ls =>
      have same : l.token.keyword = some k := by simpa [spells, nextKeyword, next?] using spelled
      simp [expect, token, Phrase.read, same] at missed

/-- A name's parts are taken whatever they are. -/
theorem alike_anythings : Alike calls tail (fun ls => Open n ls ∧ stops ls = false)
    (separated (hasMark .dot) anything) fun _ => Open n := by
  have turn : Alike calls tail (Open n)
      (do if ← hasMark .dot then return some (← anything) else return none)
      fun _ => Open n := by
    refine .bind (alike_hasMark alike_dot) fun dotted => ?_
    cases dotted with
    | false => exact .pure fun _ h => h.1
    | true =>
      exact .bind (alike_anything (fun _ h => h) fun _ _ _ h => h) fun _ => .pure fun _ h => h
  have first : Alike calls tail (fun ls => Open n ls ∧ stops ls = false) anything fun _ => Open n :=
    alike_anything (fun _ h => h) fun _ _ _ h => h
  refine .bind first fun _ => .bind (alike_series turn (.guard .hasMark)) fun _ => ?_
  exact .pure fun _ h => h

end Anything

end Vocabulary

end QueryGateway.Sql
