import QueryGateway.Proofs.Sql.Enclosed.Query

/-! Queries in brackets among the items of a select.

A bracket before an item opens a query or joined tables, and of joined tables several items
are made. So where all the items of a select are one query, that query was read behind the
bracket, up to where the bracket closes (`query_of_tables`). -/
namespace QueryGateway.Sql

open Phrase Grammar Ast

/-! ### What is read -/

/-- Whatever a phrase reads is of some kind. -/
def Yields (calls : Reader) {α : Type} (p : Phrase α) (P : α → Prop) : Prop :=
  ∀ place ls a rest, p.read calls place ls = .done a rest → P a

section Yields

variable {calls : Reader} {α β σ : Type} {P : α → Prop} {Q : β → Prop}

theorem Yields.pure {a : α} (h : P a) : Yields calls (pure a) P := by
  intro place ls b rest done
  cases done
  exact h

theorem Yields.miss : Yields calls .miss P := by
  intro place ls a rest done
  cases done

theorem Yields.bind {p : Phrase α} {f : α → Phrase β} (hp : Yields calls p P)
    (hf : ∀ a, P a → Yields calls (f a) Q) : Yields calls (p >>= f) Q := by
  intro place ls b rest done
  obtain ⟨a, mid, first, done⟩ := read_bind_eq_done.mp done
  exact hf a (hp _ _ _ _ first) _ _ _ _ done

/-- Behind what does not count. -/
theorem Yields.then {p : Phrase α} {f : α → Phrase β} (hf : ∀ a, Yields calls (f a) Q) :
    Yields calls (p >>= f) Q :=
  .bind (P := fun _ => True) (fun _ _ _ _ _ => trivial) fun a _ => hf a

theorem Yields.ite {c : Prop} [Decidable c] {p q : Phrase α} (hp : c → Yields calls p P)
    (hq : ¬ c → Yields calls q P) : Yields calls (if c then p else q) P := by
  split
  · exact hp ‹_›
  · exact hq ‹_›

theorem Yields.attempt {p : Phrase α} (h : Yields calls p P) :
    Yields calls (attempt p) fun o => ∀ a ∈ o, P a := by
  intro place ls o rest done
  rw [Phrase.read] at done
  split at done
  case h_1 found =>
    cases done
    intro a ha
    cases ha
    exact h _ _ _ _ found
  case h_2 =>
    cases done
    intro _ ha
    cases ha
  case h_3 => cases done

theorem Yields.loop {start : σ} {step : σ → Phrase (Option σ)} {I : σ → Prop} (first : I start)
    (turn : ∀ s, I s → Yields calls (step s) fun o => ∀ s' ∈ o, I s') :
    Yields calls (loop start step) I := by
  intro place ls s rest done
  exact loopFrom_keeps (I := fun s _ => I s)
    (fun here turned => turn _ here _ _ _ _ turned _ rfl) (fun here _ => here) first done

/-- A body is its first operand, unless a set operator follows it. -/
theorem operand_of_body {above : Nat} {place : Place} {ls rest : List Lexeme} {b : Body}
    (h : (bodyAbove above).read calls place ls = .done b rest) :
    ∃ first mid, bodyOperand.read calls place ls = .done first mid ∧
      (b = first ∨ ∃ op left right, b = .setOperation op left right) := by
  obtain ⟨first, mid, operand, more⟩ := read_bind_eq_done.mp h
  refine ⟨first, mid, operand, ?_⟩
  refine Yields.loop (I := fun b => b = first ∨ ∃ op left right, b = .setOperation op left right)
    (.inl rfl) (fun left _ => .then fun level => .ite (fun _ => ?_) fun _ => ?_) _ _ _ _ more
  · refine .pure fun _ hb => ?_
    cases hb
  · refine .then fun op => .then fun _ => .then fun right => .pure fun b hb => ?_
    cases hb
    exact .inr ⟨op, left, right, rfl⟩

end Yields

/-! ### Items -/

section Items

variable {items : List Tree.Item} {among : List Tree.Query}

theorem joins_of_lowerJoined {j : Joined} (h : lowerJoined j = .ok (items, among)) :
    ∃ first amongFirst others amongOthers, lowerFactor j.first = .ok (first, amongFirst) ∧
      lowerJoins j.joins = .ok (others, amongOthers) ∧ items = first ++ others := by
  obtain ⟨_, _⟩ := j
  obtain ⟨⟨first, amongFirst⟩, hfirst, h⟩ := except_bind_eq_ok.mp h
  obtain ⟨⟨others, amongOthers⟩, hothers, h⟩ := except_bind_eq_ok.mp h
  cases h
  exact ⟨first, amongFirst, others, amongOthers, hfirst, hothers, rfl⟩

theorem lowerFactor_ne_nil {f : Factor} {items : List Tree.Item} {among : List Tree.Query}
    (h : lowerFactor f = .ok (items, among)) : items ≠ [] := by
  cases f with
  | table =>
    cases h
    exact List.cons_ne_nil _ _
  | joined j columns =>
    obtain ⟨⟨items, among⟩, hj, h⟩ := except_bind_eq_ok.mp h
    obtain ⟨_, _, h⟩ := except_bind_eq_ok.mp h
    cases h
    obtain ⟨_, joins⟩ := j
    obtain ⟨first, _, others, _, hfirst, _, rfl⟩ := joins_of_lowerJoined hj
    exact List.append_ne_nil_of_left_ne_nil (lowerFactor_ne_nil hfirst) _
  | function | derived | turned | other =>
    obtain ⟨_, _, h⟩ := except_bind_eq_ok.mp h
    cases h
    exact List.cons_ne_nil _ _

theorem lowerJoins_ne_nil {joins : List Join} (some : joins ≠ [])
    (h : lowerJoins joins = .ok (items, among)) : items ≠ [] := by
  obtain ⟨⟨table, condition⟩, rest, rfl⟩ := List.exists_cons_of_ne_nil some
  obtain ⟨⟨items, among⟩, htable, h⟩ := except_bind_eq_ok.mp h
  obtain ⟨_, _, h⟩ := except_bind_eq_ok.mp h
  obtain ⟨⟨others, _⟩, _, h⟩ := except_bind_eq_ok.mp h
  cases h
  exact List.append_ne_nil_of_left_ne_nil (lowerFactor_ne_nil htable) _

/-- A factor of which several items are made. -/
def Several (f : Factor) : Prop :=
  ∀ items among, lowerFactor f = .ok (items, among) → 2 ≤ items.length

/-- Joined tables in brackets are several. -/
def Crowded (f : Factor) : Prop := ∀ j columns, f = .joined j columns → Several f

theorem crowded_of_other {f : Factor} (other : ∀ j columns, f ≠ .joined j columns) : Crowded f :=
  fun j columns same => (other j columns same).elim

variable {calls : Reader}
  (inner : ∀ place ls f rest, calls .table place ls = .done f rest → Crowded f)

theorem yields_other {p : Phrase (List Expr)} : Yields calls (tableItem.other p) Crowded :=
  .then fun _ => .then fun _ => .pure (crowded_of_other nofun)

theorem yields_derived :
    Yields calls derived fun f => ∃ q label columns, f = .derived q label columns :=
  .then fun _ => .then fun _ => .pure ⟨_, _, _, rfl⟩

theorem yields_turned {f : Factor} :
    Yields calls (turned f) fun f' => f' = f ∨ ∃ inside parts, f' = .turned inside parts := by
  refine .loop (.inl rfl) fun g _ => .then fun way => ?_
  have turns {inside : Factor} {parts : List Expr} : ∀ f' ∈ some (Factor.turned inside parts),
      f' = f ∨ ∃ inside parts, f' = .turned inside parts := by
    intro f' hf'
    cases hf'
    exact .inr ⟨_, _, rfl⟩
  split
  · exact .then fun _ => .pure turns
  · exact .then fun _ => .pure turns
  · refine .pure fun _ h => ?_
    cases h

theorem yields_turned_crowded {f : Factor} (other : ∀ j columns, f ≠ .joined j columns) :
    Yields calls (turned f) Crowded := by
  intro place ls f' rest done
  rcases yields_turned _ _ _ _ done with rfl | ⟨_, _, rfl⟩
  · exact crowded_of_other other
  · exact crowded_of_other nofun

theorem yields_namedTable : Yields calls namedTable Crowded := by
  refine .then fun n => .then fun opens => ?_
  extract_lets rest
  have named (given : Option (List Expr)) : Yields calls (rest given) Crowded := by
    refine .then fun _ => .then fun label => .then fun hinted => ?_
    extract_lets rest
    have turnedOne (hints : List Expr) : Yields calls (rest hints) Crowded := by
      refine .then fun _ => ?_
      cases given with
      | none | some => exact yields_turned_crowded nofun
    exact .ite (fun _ => .then turnedOne) fun _ => .then turnedOne
  exact .ite (fun _ => .then fun _ => .then named) fun _ => .then named

include inner

theorem yields_nestedJoin : Yields calls nestedJoin Several := by
  have tables : Yields calls Grammar.joined fun j => Crowded j.first :=
    .bind (P := Crowded) inner fun f hf => .then fun _ => .pure hf
  refine .then fun _ => .bind tables fun j hfirst => ?_
  extract_lets alone
  refine .ite (fun _ => .miss) fun crowded => .then fun _ => .then fun _ => .pure ?_
  intro items among lowered
  obtain ⟨⟨items, among⟩, hj, lowered⟩ := except_bind_eq_ok.mp lowered
  obtain ⟨_, _, lowered⟩ := except_bind_eq_ok.mp lowered
  cases lowered
  obtain ⟨first, _, others, _, hf, hothers, rfl⟩ := joins_of_lowerJoined hj
  rw [List.length_append]
  obtain ⟨table, joins⟩ := j
  have one := List.length_pos_iff.mpr (lowerFactor_ne_nil hf)
  cases joins with
  | cons join joins =>
    have other := List.length_pos_iff.mpr (lowerJoins_ne_nil (List.cons_ne_nil _ _) hothers)
    omega
  | nil =>
    cases table with
    | joined j columns =>
      have two := hfirst _ _ rfl _ _ hf
      omega
    | table | function | derived | turned | other => exact (crowded rfl).elim

theorem yields_tableItem : Yields calls tableItem Crowded := by
  have single : Yields calls derived Crowded := by
    intro place ls f rest done
    obtain ⟨_, _, _, rfl⟩ := yields_derived _ _ _ _ done
    exact crowded_of_other nofun
  have other (parts : List Expr) : Yields calls (pure (Factor.other parts)) Crowded :=
    .pure (crowded_of_other nofun)
  refine .then fun _ => .ite (fun _ => ?_) fun _ => .then fun _ => .ite (fun _ => ?_) fun _ => ?_
  · exact .then fun _ => .ite (fun _ => single) fun _ => .then fun _ => yields_other
  · exact yields_other
  refine .then fun _ => .ite (fun _ => ?_) fun _ => .then fun _ => .ite (fun _ => ?_) fun _ => ?_
  · refine .bind (.attempt yields_derived) fun found hfound => ?_
    cases found with
    | none =>
      intro place ls f rest done j columns _
      exact yields_nestedJoin inner place ls f rest done
    | some d =>
      obtain ⟨q, label, columns, rfl⟩ := hfound d rfl
      exact yields_turned_crowded nofun
  · refine .then fun _ => .then fun _ => .then fun _ => .then fun _ => ?_
    exact .ite (fun _ => .then fun _ => other _) fun _ => other _
  · refine .then fun asked => ?_
    split
    · exact .then fun _ => yields_other
    · exact .then fun _ => yields_other
    · exact .then fun _ => yields_other
    · exact yields_namedTable

end Items

/-! ### One query in brackets -/

theorem crowded_of_table {fuel levels : Nat} {place : Place} {ls rest : List Lexeme} {f : Factor}
    (h : Rule.read phraseOf fuel levels .table place ls = .done f rest) : Crowded f := by
  induction fuel generalizing place ls f rest with
  | zero => cases h
  | succ fuel ih => exact yields_tableItem (fun _ _ _ _ h => ih h) place ls f rest h

section One

variable {place : Place} {apart : Bool} {row rest : List Lexeme} {fuel levels : Nat}
  {t : Tree.Query} {label : Option String} {among : List Tree.Query}

/-- What is read as one query in brackets has a query in the brackets. -/
theorem query_of_table {f : Factor}
    (h : Rule.read phraseOf (fuel + 1) levels .table place (⟨.opening .round, apart⟩ :: row) =
      .done f rest)
    (lowered : lowerFactor f = .ok ([.subquery t label], among)) :
    ∃ q l mid, Rule.read phraseOf fuel levels .query place row = .done q (l :: mid) ∧
      l.token = .closing .round ∧ lowerQuery q = .ok t := by
  have h := read_next (read_next (read_next h rfl) rfl) rfl
  obtain ⟨found, mid, first, h⟩ := read_bind_eq_done.mp h
  rw [Phrase.read] at first
  split at first
  case h_1 d done =>
    cases first
    obtain ⟨q, _, inside, labelled⟩ := read_bind_eq_done.mp done
    obtain ⟨q', _, inside, closes⟩ := read_bind_eq_done.mp (read_next inside rfl)
    obtain ⟨_, _, closes, same⟩ := read_bind_eq_done.mp closes
    cases same
    obtain ⟨l, rfl, closing⟩ := closing_eq_done closes
    obtain ⟨⟨label', columns⟩, _, _, same⟩ := read_bind_eq_done.mp labelled
    cases same
    rcases yields_turned _ _ _ _ h with rfl | ⟨_, _, rfl⟩
    · obtain ⟨t', hq, same⟩ := except_bind_eq_ok.mp lowered
      cases same
      exact ⟨q, l, _, inside, closing, hq⟩
    · obtain ⟨_, _, same⟩ := except_bind_eq_ok.mp lowered
      cases same
  case h_2 =>
    cases first
    have several := yields_nestedJoin (fun _ _ _ _ => crowded_of_table) _ _ _ _ h
    exact absurd (several _ _ lowered) (Nat.lt_irrefl 1)
  case h_3 => cases first

theorem query_of_tables {ts : List Ast.Joined}
    (h : tables.read (Rule.read phraseOf (fuel + 1) levels) place
      (⟨.opening .round, apart⟩ :: row) = .done ts rest)
    (lowered : lowerTables ts = .ok ([.subquery t label], among)) :
    ∃ q l mid, Rule.read phraseOf fuel levels .query place row = .done q (l :: mid) ∧
      l.token = .closing .round ∧ lowerQuery q = .ok t := by
  obtain ⟨j, _, first, h⟩ := read_bind_eq_done.mp h
  obtain ⟨more, _, _, same⟩ := read_bind_eq_done.mp h
  cases same
  obtain ⟨f, _, table, joins⟩ := read_bind_eq_done.mp first
  obtain ⟨_, _, _, same⟩ := read_bind_eq_done.mp joins
  cases same
  obtain ⟨⟨items, amongFirst⟩, hj, lowered⟩ := except_bind_eq_ok.mp lowered
  obtain ⟨⟨others, _⟩, _, lowered⟩ := except_bind_eq_ok.mp lowered
  have whole : items ++ others = [.subquery t label] := (Prod.mk.inj (Except.ok.inj lowered)).1
  obtain ⟨first, _, joined, _, hfirst, _, rfl⟩ := joins_of_lowerJoined hj
  have alone : first = [.subquery t label] := by
    rw [List.append_assoc] at whole
    rcases List.append_eq_singleton_iff.mp whole with none | one
    · exact (lowerFactor_ne_nil hfirst none.1).elim
    · exact one.1
  subst alone
  exact query_of_table table hfirst

end One

end QueryGateway.Sql
