import QueryGateway.Proofs.Sql.Lowering

/-! Which relations of a statement its tree names.

Of what the grammar finds in a statement, the relations that have a place are named in the
tree, and no others (`has_name_iff_places`). -/
namespace QueryGateway

namespace Tree

/-! ### Relations in a tree -/

/-- The entries that a part gives to the statement or query around it. -/
def Part.entries : Part → List Part
  | .statement s => s.held
  | .query q => [.query q]
  | .body b => b.held
  | .item role i => i.held role
  | .name role relation => [.name role relation]

/-- A relation is named among entries, or in a query further inside. -/
inductive Stands : List Part → Role → String → Prop
  | here {entries : List Part} {role : Role} {relation : String}
      (named : .name role relation ∈ entries) : Stands entries role relation
  | inside {entries : List Part} {q : Query} {role : Role} {relation : String}
      (held : .query q ∈ entries) (h : Stands q.held role relation) : Stands entries role relation

section Stands

variable {role : Role} {relation : String}

theorem stands_name {role' : Role} {relation' : String} :
    Stands [.name role' relation'] role relation ↔ role = role' ∧ relation = relation' := by
  constructor
  · intro stands
    cases stands with
    | here named =>
      cases List.mem_singleton.mp named
      exact ⟨rfl, rfl⟩
    | inside held => cases List.mem_singleton.mp held
  · intro same
    obtain ⟨rfl, rfl⟩ := same
    exact .here (List.mem_singleton.mpr rfl)

theorem stands_query {q : Query} :
    Stands [.query q] role relation ↔ Stands q.held role relation := by
  constructor
  · intro stands
    cases stands with
    | here named => cases List.mem_singleton.mp named
    | inside held h =>
      cases List.mem_singleton.mp held
      exact h
  · exact .inside (List.mem_singleton.mpr rfl)

theorem stands_flatMap {α : Type} {f : α → List Part} {xs : List α} :
    Stands (xs.flatMap f) role relation ↔ ∃ x ∈ xs, Stands (f x) role relation := by
  constructor
  · intro stands
    cases stands with
    | here named =>
      obtain ⟨x, hx, named⟩ := List.mem_flatMap.mp named
      exact ⟨x, hx, .here named⟩
    | inside held h =>
      obtain ⟨x, hx, held⟩ := List.mem_flatMap.mp held
      exact ⟨x, hx, .inside held h⟩
  · intro stands
    obtain ⟨x, hx, stands⟩ := stands
    cases stands with
    | here named => exact .here (List.mem_flatMap.mpr ⟨x, hx, named⟩)
    | inside held h => exact .inside (List.mem_flatMap.mpr ⟨x, hx, held⟩) h

end Stands

/-! ### The entries of a part, from the parts inside it -/

/-- The entries of all parts inside a part. -/
def Part.entriesInside (inside : List (Step × Part)) : List Part :=
  inside.flatMap fun c => c.2.entries

section Inside

open QueryGateway.Tree.Part

theorem entriesInside_append (inside inside' : List (Step × Part)) :
    entriesInside (inside ++ inside') = entriesInside inside ++ entriesInside inside' :=
  List.flatMap_append

theorem entriesInside_cons (c : Step × Part) (inside : List (Step × Part)) :
    entriesInside (c :: inside) = c.2.entries ++ entriesInside inside :=
  List.flatMap_cons ..

theorem entriesInside_numbered {α : Type} (step : Nat → Step) (part : α → Part) (xs : List α) :
    entriesInside (numbered step part xs) = xs.flatMap fun x => (part x).entries := by
  induction xs generalizing step with
  | nil => rfl
  | cons x xs ih => rw [numbered_cons, entriesInside_cons, ih, List.flatMap_cons]

theorem entriesInside_map {α : Type} (step : Step) (part : α → Part) (xs : List α) :
    entriesInside (xs.map fun x => (step, part x)) = xs.flatMap fun x => (part x).entries :=
  List.flatMap_map ..

theorem entriesInside_queries (step : Nat → Step) (qs : List Query) :
    entriesInside (numbered step .query qs) = qs.map .query := by
  rw [entriesInside_numbered, List.map_eq_flatMap]
  rfl

theorem entriesInside_items (step : Nat → Step) (role : Role) (items : List Item) :
    entriesInside (numbered step (.item role) items) = itemsHeld role items :=
  entriesInside_numbered ..

theorem entriesInside_names (step : Step) (role : Role) (names : List String) :
    entriesInside (names.map fun n => (step, .name role n)) = names.map (.name role) := by
  rw [entriesInside_map, List.map_eq_flatMap]
  rfl

theorem Item.held_eq (role : Role) (i : Item) :
    i.held role = entriesInside (i.inside role) := by
  cases i with
  | table name => rfl
  | subquery q label => rfl
  | function name embedded => exact (entriesInside_queries ..).symm
  | other embedded => exact (entriesInside_queries ..).symm

theorem Statement.held_eq (s : Statement) : s.held = entriesInside s.inside := by
  cases s with
  | query q => rfl
  | insert i =>
    obtain ⟨table, source, embedded⟩ := i
    rw [Statement.inside, entriesInside_append, entriesInside_cons, entriesInside_queries,
      entriesInside_map, Statement.held, List.map_eq_flatMap]
    rfl
  | update u =>
    obtain ⟨target, source, embedded⟩ := u
    rw [Statement.inside, entriesInside_append, entriesInside_append, entriesInside_items,
      entriesInside_items, entriesInside_queries, Statement.held]
  | delete d =>
    obtain ⟨targets, source, embedded⟩ := d
    rw [Statement.inside, entriesInside_append, entriesInside_append, entriesInside_items,
      entriesInside_items, entriesInside_queries, Statement.held]
  | create c =>
    obtain ⟨kind, name, queries⟩ := c
    rw [Statement.inside, entriesInside_append, entriesInside_names, entriesInside_queries,
      Statement.held]
  | drop _ => rfl
  | alter _ => rfl
  | other _ => rfl

theorem Body.held_eq (b : Body) : b.held = entriesInside b.inside := by
  cases b with
  | select s =>
    obtain ⟨source, embedded, into⟩ := s
    rw [Body.inside, entriesInside_append, entriesInside_append, entriesInside_names,
      entriesInside_items, entriesInside_queries, Body.held]
  | setOperation op left right =>
    rw [Body.inside, entriesInside_cons, entriesInside_cons, Body.held]
    exact congrArg _ (List.append_nil _).symm
  | nested q => rfl
  | values embedded => exact (entriesInside_queries ..).symm
  | table name => rfl
  | modify s =>
    rw [Body.inside, entriesInside_cons, Body.held]
    exact (List.append_nil _).symm

theorem Query.held_eq (q : Query) : q.held = entriesInside q.inside := by
  obtain ⟨ctes, recursive, body, trailing⟩ := q
  rw [Query.inside, entriesInside_append, entriesInside_cons, entriesInside_queries,
    entriesInside_numbered, Query.held, List.map_eq_flatMap, List.append_assoc]
  rfl

/-- A relation is named somewhere in a part exactly if it stands among the entries of the
part, or further inside. -/
theorem has_name_iff_stands {p : Part} {role : Role} {relation : String} :
    p.Has (· = .name role relation) ↔ Stands p.entries role relation := by
  induction p using Part.inductionInside with
  | h p ih =>
    have deeper : (∃ c ∈ p.inside, c.2.Has (· = .name role relation)) ↔
        Stands (entriesInside p.inside) role relation := by
      rw [entriesInside, stands_flatMap]
      exact exists_congr fun c => and_congr_right (ih c)
    rw [has_inside, deeper]
    cases p with
    | statement s =>
      rw [Part.inside, ← s.held_eq]
      simp only [reduceCtorEq, false_or]
      rfl
    | query q =>
      rw [Part.inside, ← q.held_eq, Part.entries, stands_query]
      simp only [reduceCtorEq, false_or]
    | body b =>
      rw [Part.inside, ← b.held_eq]
      simp only [reduceCtorEq, false_or]
      rfl
    | item role' i =>
      rw [Part.inside, ← i.held_eq]
      simp only [reduceCtorEq, false_or]
      rfl
    | name role' relation' =>
      have none : ¬ Stands [] role relation := by
        intro stands
        cases stands with
        | here named => cases named
        | inside held => cases held
      rw [Part.inside, entriesInside, List.flatMap_nil, or_iff_left none, Part.entries, stands_name,
        Part.name.injEq]
      exact ⟨fun same => ⟨same.1.symm, same.2.symm⟩, fun same => ⟨same.1.symm, same.2.symm⟩⟩

end Inside

end Tree

namespace Sql

open Ast QueryGateway.Tree

/-! ### Relations that have a place -/

/-- A relation has a place among the entries of a piece, or in a query that has one. -/
inductive Places : Found → Role → String → Prop
  | here {f : Found} {role : Role} {relation : String} (named : .name role relation ∈ f.placed) :
      Places f role relation
  | inside {f : Found} {q : Ast.Query} {role : Role} {relation : String}
      (placed : .query q ∈ f.placed) (h : Places q.found role relation) : Places f role relation

variable {f : Found} {held : List Part} {role : Role} {relation : String}

theorem stands_of_places (lowers : Paired LowersTo f.placed held)
    (places : Places f role relation) :
    Stands held role relation := by
  induction places generalizing held with
  | here named =>
    obtain ⟨p, hp, lowersTo⟩ := lowers.exists_of_mem named
    cases lowersTo
    exact .here hp
  | inside placed _ ih =>
    obtain ⟨p, hp, lowersTo⟩ := lowers.exists_of_mem placed
    cases lowersTo with
    | query lowered => exact .inside hp (ih (lowerQuery_paired lowered))

theorem Paired.exists_of_mem_right {R : Entry → Part → Prop} {es : List Entry} {ps : List Part}
    (h : Paired R es ps) {p : Part} (hp : p ∈ ps) : ∃ e ∈ es, R e p := by
  obtain ⟨pairs, rfl, once, hR⟩ := h
  obtain ⟨⟨e, _⟩, hpair, rfl⟩ := List.mem_map.mp (once.mem_iff.mpr hp)
  exact ⟨e, List.mem_map_of_mem hpair, hR _ hpair⟩

theorem places_of_stands (lowers : Paired LowersTo f.placed held)
    (stands : Stands held role relation) :
    Places f role relation := by
  induction stands generalizing f with
  | here named =>
    obtain ⟨e, he, lowersTo⟩ := lowers.exists_of_mem_right named
    cases lowersTo
    exact .here he
  | inside held _ ih =>
    obtain ⟨e, he, lowersTo⟩ := lowers.exists_of_mem_right held
    cases lowersTo with
    | query lowered => exact .inside he (ih (lowerQuery_paired lowered))

/-- A tree names the relations that have a place in the statement, and no others. -/
theorem has_name_iff_places {s : Ast.Statement} {tree : Tree.Statement}
    (lowered : lowerStatement s = .ok tree) (kind : tree.keepsQueries = true) :
    (Part.statement tree).Has (· = .name role relation) ↔ Places s.found role relation := by
  have lowers := lowerStatement_paired lowered kind
  rw [has_name_iff_stands]
  exact ⟨places_of_stands lowers, stands_of_places lowers⟩

end Sql

end QueryGateway
