import Mathlib.Logic.Basic
import QueryGateway.Proofs.Tree.Part

/-! Parentheses around a query make no difference.

A body that is a query in parentheses, without a `WITH` list and without clauses behind it, is
as good as the body of that query. `strip` takes such parentheses away wherever they stand, and
nothing that the gateway decides on is changed by it (`decision_strip`). -/
namespace QueryGateway.Tree

mutual

/-- A statement without redundant parentheses. -/
def Statement.strip : Statement → Statement
  | .query q => .query q.strip
  | .insert ⟨table, source, embedded⟩ =>
    .insert ⟨table, stripOption source, stripQueries embedded⟩
  | .update ⟨target, source, embedded⟩ =>
    .update ⟨stripItems target, stripItems source, stripQueries embedded⟩
  | .delete ⟨targets, source, embedded⟩ =>
    .delete ⟨stripItems targets, stripItems source, stripQueries embedded⟩
  | .create ⟨kind, name, queries⟩ => .create ⟨kind, name, stripQueries queries⟩
  | .drop object => .drop object
  | .alter object => .alter object
  | .other keyword => .other keyword

/-- A query without redundant parentheses. -/
def Query.strip : Query → Query
  | ⟨ctes, recursive, body, trailing⟩ =>
    ⟨stripCtes ctes, recursive, body.strip, stripQueries trailing⟩

/-- Named queries without redundant parentheses. -/
def stripCtes : List Cte → List Cte
  | [] => []
  | ⟨name, q⟩ :: rest => ⟨name, q.strip⟩ :: stripCtes rest

/-- A body without redundant parentheses, neither around it nor inside. -/
def Body.strip : Body → Body
  | .select ⟨source, embedded, into⟩ =>
    .select ⟨stripItems source, stripQueries embedded, into⟩
  | .setOperation op left right => .setOperation op left.strip right.strip
  | .nested ⟨ctes, recursive, body, trailing⟩ =>
    if ctes.isEmpty && trailing.isEmpty then body.strip
    else .nested ⟨stripCtes ctes, recursive, body.strip, stripQueries trailing⟩
  | .values embedded => .values (stripQueries embedded)
  | .table name => .table name
  | .modify s => .modify s.strip

/-- Items without redundant parentheses. -/
def stripItems : List Item → List Item
  | [] => []
  | item :: rest => item.strip :: stripItems rest

/-- An item without redundant parentheses. -/
def Item.strip : Item → Item
  | .table name => .table name
  | .subquery q label => .subquery q.strip label
  | .function name embedded => .function name (stripQueries embedded)
  | .other embedded => .other (stripQueries embedded)

/-- Queries without redundant parentheses. -/
def stripQueries : List Query → List Query
  | [] => []
  | q :: rest => q.strip :: stripQueries rest

/-- A query that may be missing, without redundant parentheses. -/
def stripOption : Option Query → Option Query
  | none => none
  | some q => some q.strip

end

/-! ### Relations -/

theorem boundNames_strip (ctes : List Cte) : boundNames (stripCtes ctes) = boundNames ctes := by
  induction ctes with
  | nil => rfl
  | cons c rest ih =>
    obtain ⟨name, q⟩ := c
    rw [stripCtes, boundNames, List.map_cons, ← boundNames, ih]
    rfl

/-- A query without named queries and without clauses behind it mentions what its body does. -/
theorem Query.mentions_bare (scope : Scope) (place : Place) (recursive : Bool) (body : Body) :
    Query.mentions scope place ⟨[], recursive, body, []⟩ = body.mentions scope place := by
  cases recursive <;> simp [Query.mentions, boundNames, ctesMentions, ctesInOrder, queriesMentions]

mutual

theorem Statement.mentions_strip (scope : Scope) (place : Place) :
    (s : Statement) → s.strip.mentions scope place = s.mentions scope place
  | .query q => by rw [Statement.strip, Statement.mentions, Statement.mentions, q.mentions_strip]
  | .insert ⟨table, source, embedded⟩ => by
    rw [Statement.strip, Statement.mentions, Statement.mentions, optionMentions_strip,
      queriesMentions_strip]
  | .update ⟨target, source, embedded⟩ => by
    rw [Statement.strip, Statement.mentions, Statement.mentions, itemsMentions_strip,
      itemsMentions_strip, queriesMentions_strip]
  | .delete ⟨targets, source, embedded⟩ => by
    rw [Statement.strip, Statement.mentions, Statement.mentions, itemsMentions_strip,
      itemsMentions_strip, queriesMentions_strip]
  | .create ⟨kind, name, queries⟩ => by
    rw [Statement.strip, Statement.mentions, Statement.mentions, queriesMentions_strip]
  | .drop _ | .alter _ | .other _ => by rw [Statement.strip]

theorem Query.mentions_strip (scope : Scope) (place : Place) :
    (q : Query) → q.strip.mentions scope place = q.mentions scope place
  | ⟨ctes, recursive, body, trailing⟩ => by
    rw [Query.strip, Query.mentions, Query.mentions, boundNames_strip, body.mentions_strip,
      queriesMentions_strip, ctesMentions_strip, ctesInOrder_strip]

theorem ctesMentions_strip (scope : Scope) :
    (ctes : List Cte) → ctesMentions scope (stripCtes ctes) = ctesMentions scope ctes
  | [] => rfl
  | ⟨name, q⟩ :: rest => by
    rw [stripCtes, ctesMentions, ctesMentions, q.mentions_strip, ctesMentions_strip]

theorem ctesInOrder_strip (scope : Scope) :
    (ctes : List Cte) → ctesInOrder scope (stripCtes ctes) = ctesInOrder scope ctes
  | [] => rfl
  | ⟨name, q⟩ :: rest => by
    rw [stripCtes, ctesInOrder, ctesInOrder, q.mentions_strip, ctesInOrder_strip]

theorem Body.mentions_strip (scope : Scope) (place : Place) :
    (b : Body) → b.strip.mentions scope place = b.mentions scope place
  | .select ⟨source, embedded, into⟩ => by
    rw [Body.strip, Body.mentions, Body.mentions, itemsMentions_strip, queriesMentions_strip]
  | .setOperation op left right => by
    rw [Body.strip, Body.mentions, Body.mentions, left.mentions_strip, right.mentions_strip]
  | .nested ⟨ctes, recursive, body, trailing⟩ => by
    rw [Body.strip, Body.mentions]
    split
    -- Without a `WITH` list the body sees the names that its parentheses see.
    · rename_i bare
      obtain ⟨none, nothing⟩ := Bool.and_eq_true_iff.mp bare
      rw [List.isEmpty_iff.mp none, List.isEmpty_iff.mp nothing, Query.mentions_bare,
        body.mentions_strip]
    · have inside := Query.mentions_strip scope place ⟨ctes, recursive, body, trailing⟩
      rw [Body.mentions, ← inside, Query.strip]
  | .values embedded => by rw [Body.strip, Body.mentions, Body.mentions, queriesMentions_strip]
  | .table name => by rw [Body.strip]
  | .modify s => by rw [Body.strip, Body.mentions, Body.mentions, s.mentions_strip]

theorem itemsMentions_strip (scope : Scope) (role : Role) (place : Place) :
    (items : List Item) →
      itemsMentions scope role place (stripItems items) = itemsMentions scope role place items
  | [] => rfl
  | item :: rest => by
    rw [stripItems, itemsMentions, itemsMentions, item.mentions_strip, itemsMentions_strip]

theorem Item.mentions_strip (scope : Scope) (role : Role) (place : Place) :
    (i : Item) → i.strip.mentions scope role place = i.mentions scope role place
  | .table name => by rw [Item.strip]
  | .subquery q label => by rw [Item.strip, Item.mentions, Item.mentions, q.mentions_strip]
  | .function name embedded => by
    rw [Item.strip, Item.mentions, Item.mentions, queriesMentions_strip]
  | .other embedded => by
    rw [Item.strip, Item.mentions, Item.mentions, queriesMentions_strip]

theorem queriesMentions_strip (scope : Scope) :
    (qs : List Query) → queriesMentions scope (stripQueries qs) = queriesMentions scope qs
  | [] => rfl
  | q :: rest => by
    rw [stripQueries, queriesMentions, queriesMentions, q.mentions_strip, queriesMentions_strip]

theorem optionMentions_strip (scope : Scope) :
    (q : Option Query) → optionMentions scope (stripOption q) = optionMentions scope q
  | none => rfl
  | some q => by rw [stripOption, optionMentions, optionMentions, q.mentions_strip]

end

theorem Statement.references_strip (s : Statement) : s.strip.references = s.references :=
  s.mentions_strip [] .own

/-! ### Sections -/

theorem sourceSection_strip (items : List Item) :
    sourceSection (stripItems items) = sourceSection items := by
  cases items <;> rfl

/-- In a query without named queries and without clauses behind it is met what its body has. -/
theorem Query.met_bare (recursive : Bool) (body : Body) :
    Query.met ⟨[], recursive, body, []⟩ = body.met := by
  simp [Query.met, ctesMet, queriesMet]

mutual

theorem Statement.met_strip : (s : Statement) → s.strip.met = s.met
  | .query q => by rw [Statement.strip, Statement.met, Statement.met, q.met_strip]
  | .insert ⟨table, source, embedded⟩ => by
    rw [Statement.strip, Statement.met, Statement.met, optionMet_strip, queriesMet_strip]
  | .update ⟨target, source, embedded⟩ => by
    rw [Statement.strip, Statement.met, Statement.met, itemsMet_strip, sourceSection_strip,
      itemsMet_strip, queriesMet_strip]
  | .delete ⟨targets, source, embedded⟩ => by
    rw [Statement.strip, Statement.met, Statement.met, itemsMet_strip, itemsMet_strip,
      queriesMet_strip]
  | .create ⟨kind, name, queries⟩ => by
    rw [Statement.strip, Statement.met, Statement.met, queriesMet_strip]
  | .drop _ | .alter _ | .other _ => by rw [Statement.strip]

theorem Query.met_strip : (q : Query) → q.strip.met = q.met
  | ⟨ctes, recursive, body, trailing⟩ => by
    rw [Query.strip, Query.met, Query.met, ctesMet_strip, body.met_strip, queriesMet_strip]

theorem ctesMet_strip : (ctes : List Cte) → ctesMet (stripCtes ctes) = ctesMet ctes
  | [] => rfl
  | ⟨name, q⟩ :: rest => by rw [stripCtes, ctesMet, ctesMet, q.met_strip, ctesMet_strip]

theorem Body.met_strip : (b : Body) → b.strip.met = b.met
  | .select ⟨source, embedded, into⟩ => by
    rw [Body.strip, Body.met, Body.met, sourceSection_strip, itemsMet_strip, queriesMet_strip]
  | .setOperation op left right => by
    rw [Body.strip, Body.met, Body.met, left.met_strip, right.met_strip]
  | .nested ⟨ctes, recursive, body, trailing⟩ => by
    rw [Body.strip, Body.met]
    split
    · rename_i bare
      obtain ⟨none, nothing⟩ := Bool.and_eq_true_iff.mp bare
      rw [List.isEmpty_iff.mp none, List.isEmpty_iff.mp nothing, Query.met_bare, body.met_strip]
    · have inside := Query.met_strip ⟨ctes, recursive, body, trailing⟩
      rw [Body.met, ← inside, Query.strip]
  | .values embedded => by rw [Body.strip, Body.met, Body.met, queriesMet_strip]
  | .table name => by rw [Body.strip]
  | .modify s => by rw [Body.strip, Body.met, Body.met, s.met_strip]

theorem itemsMet_strip : (items : List Item) → itemsMet (stripItems items) = itemsMet items
  | [] => rfl
  | item :: rest => by rw [stripItems, itemsMet, itemsMet, item.met_strip, itemsMet_strip]

theorem Item.met_strip : (i : Item) → i.strip.met = i.met
  | .table name => by rw [Item.strip]
  | .subquery q label => by rw [Item.strip, Item.met, Item.met, q.met_strip]
  | .function name embedded => by rw [Item.strip, Item.met, Item.met, queriesMet_strip]
  | .other embedded => by rw [Item.strip, Item.met, Item.met, queriesMet_strip]

theorem queriesMet_strip : (qs : List Query) → queriesMet (stripQueries qs) = queriesMet qs
  | [] => rfl
  | q :: rest => by rw [stripQueries, queriesMet, queriesMet, q.met_strip, queriesMet_strip]

theorem optionMet_strip : (q : Option Query) → optionMet (stripOption q) = optionMet q
  | none => rfl
  | some q => by rw [stripOption, optionMet, optionMet, q.met_strip]

end

theorem Statement.sections_strip (s : Statement) : s.strip.sections = s.sections := by
  rw [Statement.sections, Statement.sections, s.met_strip]

/-! ### What a statement is -/

mutual

theorem Query.modifies_strip : (q : Query) → q.strip.modifies = q.modifies
  | ⟨ctes, recursive, body, trailing⟩ => by
    rw [Query.strip, Query.modifies, Query.modifies, anyCteModifies_strip, body.modifies_strip]

theorem anyCteModifies_strip :
    (ctes : List Cte) → anyCteModifies (stripCtes ctes) = anyCteModifies ctes
  | [] => rfl
  | ⟨name, q⟩ :: rest => by
    rw [stripCtes, anyCteModifies, anyCteModifies, q.modifies_strip, anyCteModifies_strip]

theorem Body.modifies_strip : (b : Body) → b.strip.modifies = b.modifies
  | .select ⟨_, _, _⟩ => by rw [Body.strip, Body.modifies, Body.modifies]
  | .setOperation op left right => by
    rw [Body.strip, Body.modifies, Body.modifies, left.modifies_strip, right.modifies_strip]
  | .nested ⟨ctes, recursive, body, trailing⟩ => by
    rw [Body.strip, Body.modifies]
    split
    · rename_i bare
      rw [List.isEmpty_iff.mp (Bool.and_eq_true_iff.mp bare).1, Query.modifies, anyCteModifies,
        Bool.false_or, body.modifies_strip]
    · have inside := Query.modifies_strip ⟨ctes, recursive, body, trailing⟩
      rw [Body.modifies, ← inside, Query.strip]
  | .values _ => by rw [Body.strip, Body.modifies, Body.modifies]
  | .table _ => by rw [Body.strip]
  | .modify _ => by rw [Body.strip, Body.modifies, Body.modifies]

end

mutual

theorem Query.createdTable_strip : (q : Query) → q.strip.createdTable = q.createdTable
  | ⟨ctes, recursive, body, trailing⟩ => by
    rw [Query.strip, Query.createdTable, Query.createdTable, body.createdTable_strip]

theorem Body.createdTable_strip : (b : Body) → b.strip.createdTable = b.createdTable
  | .select ⟨_, _, _⟩ => by rw [Body.strip, Body.createdTable, Body.createdTable]
  | .setOperation op left right => by
    rw [Body.strip, Body.createdTable, Body.createdTable, left.createdTable_strip,
      right.createdTable_strip]
  | .nested ⟨ctes, recursive, body, trailing⟩ => by
    rw [Body.strip, Body.createdTable, Query.createdTable]
    split
    · exact body.createdTable_strip
    · rw [Body.createdTable, Query.createdTable, body.createdTable_strip]
  | .values _ => by rw [Body.strip, Body.createdTable, Body.createdTable]
  | .table _ => by rw [Body.strip]
  | .modify _ => by rw [Body.strip, Body.createdTable, Body.createdTable]

end

theorem Statement.modifies_strip (s : Statement) : s.strip.modifies = s.modifies := by
  cases s with
  | query q => rw [Statement.strip, Statement.modifies, Statement.modifies, q.modifies_strip]
  | insert c | update c | delete c | create c => cases c; rfl
  | drop _ | alter _ | other _ => rfl

theorem Statement.classify_strip (s : Statement) : s.strip.classify = s.classify := by
  cases s with
  | query q =>
    rw [Statement.strip, Statement.classify, Statement.classify, q.createdTable_strip,
      q.modifies_strip]
  | create c =>
    obtain ⟨kind, name, queries⟩ := c
    cases kind <;> rfl
  | insert c | update c | delete c => cases c; rfl
  | drop _ | alter _ | other _ => rfl

/-! ### Nothing redundant is left -/

/-- A body that is a query in parentheses and nothing more. -/
def Part.redundant : Part → Bool
  | .body (.nested q) => q.ctes.isEmpty && q.trailing.isEmpty
  | _ => false

/-- A part without redundant parentheses. -/
def Part.strip : Part → Part
  | .statement s => .statement s.strip
  | .query q => .query q.strip
  | .body b => .body b.strip
  | .item role i => .item role i.strip
  | .name role n => .name role n

section Cases

variable (s : Statement) (q : Query) (b : Body) (role : Role) (i : Item) (n : String)

@[simp] theorem strip_statement : (Part.statement s).strip = .statement s.strip := rfl
@[simp] theorem strip_query : (Part.query q).strip = .query q.strip := rfl
@[simp] theorem strip_body : (Part.body b).strip = .body b.strip := rfl
@[simp] theorem strip_item : (Part.item role i).strip = .item role i.strip := rfl
@[simp] theorem strip_name : (Part.name role n).strip = .name role n := rfl

end Cases

theorem stripQueries_eq_map (qs : List Query) : stripQueries qs = qs.map Query.strip := by
  induction qs with
  | nil => rfl
  | cons q rest ih => rw [stripQueries, ih, List.map_cons]

theorem stripItems_eq_map (items : List Item) : stripItems items = items.map Item.strip := by
  induction items with
  | nil => rfl
  | cons item rest ih => rw [stripItems, ih, List.map_cons]

theorem stripCtes_eq_map (ctes : List Cte) :
    stripCtes ctes = ctes.map fun c => ⟨c.name, c.query.strip⟩ := by
  induction ctes with
  | nil => rfl
  | cons c rest ih =>
    obtain ⟨name, q⟩ := c
    rw [stripCtes, ih, List.map_cons]

theorem Body.strip_nested (q : Query) :
    (Body.nested q).strip =
      if (Part.body (.nested q)).redundant then q.body.strip else .nested q.strip := by
  obtain ⟨ctes, recursive, body, trailing⟩ := q
  rw [Body.strip, Query.strip]
  rfl

section Inside

variable {P : Part → Prop}

/-- Where `f` is what stripping does to the members of a list. -/
theorem exists_numbered_map {α : Type} {step : Nat → Step} {part : α → Part} {f : α → α}
    (strip_part : ∀ x, (part x).strip = part (f x)) {xs : List α} :
    (∃ c ∈ numbered step part (xs.map f), P c.2) ↔ ∃ c ∈ numbered step part xs, P c.2.strip := by
  rw [exists_numbered, exists_numbered (P := fun p => P p.strip)]
  simp only [List.mem_map, exists_exists_and_eq_and, strip_part]

theorem exists_numbered_queries {step : Nat → Step} {qs : List Query} :
    (∃ c ∈ numbered step .query (stripQueries qs), P c.2) ↔
      ∃ c ∈ numbered step .query qs, P c.2.strip := by
  rw [stripQueries_eq_map]
  exact exists_numbered_map strip_query

theorem exists_numbered_items {step : Nat → Step} {role : Role} {items : List Item} :
    (∃ c ∈ numbered step (.item role) (stripItems items), P c.2) ↔
      ∃ c ∈ numbered step (.item role) items, P c.2.strip := by
  rw [stripItems_eq_map]
  exact exists_numbered_map (strip_item role)

theorem exists_numbered_ctes {step : Nat → Step} {ctes : List Cte} :
    (∃ c ∈ numbered step (fun c => .query c.query) (stripCtes ctes), P c.2) ↔
      ∃ c ∈ numbered step (fun c => .query c.query) ctes, P c.2.strip := by
  rw [stripCtes_eq_map]
  exact exists_numbered_map fun c => strip_query c.query

/-- What stands in a part that is not redundant stands there without redundant parentheses. -/
theorem Part.exists_inside_strip {p : Part} (needed : p.redundant = false) :
    (∃ c ∈ p.strip.inside, P c.2) ↔ ∃ c ∈ p.inside, P c.2.strip := by
  cases p with
  | statement s =>
    cases s with
    | query q => simp [-Prod.exists, Statement.strip, Part.inside, Statement.inside]
    | insert i =>
      obtain ⟨table, source, embedded⟩ := i
      cases source <;> simp [-Prod.exists, Statement.strip, Part.inside, Statement.inside,
        stripOption, or_and_right, exists_or, exists_numbered_queries]
    | update u =>
      obtain ⟨target, source, embedded⟩ := u
      simp only [strip_statement, Statement.strip, Part.inside, Statement.inside, List.mem_append,
        or_and_right, exists_or, exists_numbered_items, exists_numbered_queries]
    | delete d =>
      obtain ⟨targets, source, embedded⟩ := d
      simp only [strip_statement, Statement.strip, Part.inside, Statement.inside, List.mem_append,
        or_and_right, exists_or, exists_numbered_items, exists_numbered_queries]
    | create c =>
      obtain ⟨kind, name, queries⟩ := c
      cases name <;> simp [-Prod.exists, Statement.strip, Part.inside, Statement.inside,
        or_and_right, exists_or, exists_numbered_queries]
    | drop _ | alter _ | other _ =>
      simp [-Prod.exists, Statement.strip, Part.inside, Statement.inside]
  | query q =>
    obtain ⟨ctes, recursive, body, trailing⟩ := q
    simp only [strip_query, strip_body, Query.strip, Part.inside, Query.inside, List.mem_append,
      List.mem_cons, or_and_right, exists_or, exists_eq_left, exists_numbered_ctes,
      exists_numbered_queries]
  | body b =>
    cases b with
    | select s =>
      obtain ⟨source, embedded, into⟩ := s
      cases into <;> simp [-Prod.exists, Body.strip, Part.inside, Body.inside, or_and_right,
        exists_or, exists_numbered_items, exists_numbered_queries]
    | setOperation op left right => simp [-Prod.exists, Body.strip, Part.inside, Body.inside]
    | nested q => simp [-Prod.exists, Body.strip_nested, needed, Part.inside, Body.inside]
    | values embedded =>
      exact exists_numbered_queries
    | table name => simp [-Prod.exists, Body.strip, Part.inside, Body.inside]
    | modify s => simp [-Prod.exists, Body.strip, Part.inside, Body.inside]
  | item role i =>
    cases i with
    | table name => simp [-Prod.exists, Item.strip, Part.inside, Item.inside]
    | subquery q label => simp [-Prod.exists, Item.strip, Part.inside, Item.inside]
    | function name embedded => exact exists_numbered_queries
    | other embedded => exact exists_numbered_queries
  | name _ _ => simp [-Prod.exists, Part.inside]

end Inside

/-- Parentheses that are needed stay so. -/
theorem Part.redundant_strip {p : Part} (needed : p.redundant = false) :
    p.strip.redundant = false := by
  cases p with
  | body b =>
    cases b with
    | nested q =>
      obtain ⟨ctes, recursive, body, trailing⟩ := q
      rw [strip_body, Body.strip_nested, needed, if_neg (by decide), ← needed, Query.strip,
        Part.redundant, Part.redundant, stripCtes_eq_map, stripQueries_eq_map, List.isEmpty_map,
        List.isEmpty_map]
    | select s => cases s; rfl
    | setOperation _ _ _ | values _ | table _ | modify _ => rfl
  | statement _ | query _ | item _ _ | name _ _ => rfl

/-- Nothing redundant is left. -/
theorem Part.not_has_redundant (p : Part) : ¬ p.strip.Has (·.redundant = true) := by
  induction p using Part.inductionInside with
  | h p ih =>
    cases needed : p.redundant with
    | false =>
      rw [has_inside, p.redundant_strip needed,
        exists_inside_strip needed (P := fun c => c.Has (·.redundant = true))]
      simpa using ih
    | true =>
      match p, needed with
      -- These parentheses go; what stood in them has none left by induction.
      | .body (.nested q), needed =>
        have inside : ¬ (Part.query q.strip).Has (·.redundant = true) :=
          ih (.nested, .query q) (List.mem_singleton.mpr rfl)
        rw [strip_body, Body.strip_nested, if_pos needed]
        intro found
        obtain ⟨ctes, recursive, body, trailing⟩ := q
        have there : (Step.body, Part.body body.strip) ∈
            (Part.query (Query.mk ctes recursive body trailing).strip).inside :=
          List.mem_append_right _ List.mem_cons_self
        exact inside (has_inside.mpr (.inr ⟨_, there, found⟩))

section Same

variable {step : Nat → Step}

/-- Where `f` is what stripping does to the members of a list. -/
theorem map_eq_self {α : Type} (part : α → Part) {f : α → α}
    (same_part : ∀ x, (part x).strip = part x → f x = x) {xs : List α}
    (same : ∀ c ∈ numbered step part xs, c.2.strip = c.2) : xs.map f = xs := by
  have each : ∀ x ∈ xs, f x = x := by
    intro x hx
    obtain ⟨k, hk⟩ := List.getElem?_of_mem hx
    exact same_part x (same (step k, part x) (mem_numbered.mpr ⟨k, x, hk, rfl, rfl⟩))
  rw [List.map_congr_left each, List.map_id']

theorem stripQueries_eq_self {qs : List Query}
    (same : ∀ c ∈ numbered step .query qs, c.2.strip = c.2) : stripQueries qs = qs := by
  rw [stripQueries_eq_map]
  exact map_eq_self .query (fun _ => Part.query.inj) same

theorem stripItems_eq_self {role : Role} {items : List Item}
    (same : ∀ c ∈ numbered step (.item role) items, c.2.strip = c.2) :
    stripItems items = items := by
  rw [stripItems_eq_map]
  exact map_eq_self (.item role) (fun _ h => (Part.item.inj h).2) same

theorem stripCtes_eq_self {ctes : List Cte}
    (same : ∀ c ∈ numbered step (fun c => .query c.query) ctes, c.2.strip = c.2) :
    stripCtes ctes = ctes := by
  have same_cte : ∀ c : Cte, (Part.query c.query).strip = .query c.query →
      ⟨c.name, c.query.strip⟩ = c := by
    rintro ⟨name, q⟩ same
    rw [Part.query.inj same]
  rw [stripCtes_eq_map]
  exact map_eq_self (fun c => .query c.query) same_cte same

end Same

/-- A part that is not redundant is left as it is if what stands in it is. -/
theorem Part.strip_eq_self_of_inside {p : Part} (needed : p.redundant = false)
    (same : ∀ c ∈ p.inside, c.2.strip = c.2) : p.strip = p := by
  cases p with
  | statement s =>
    cases s with
    | query q => simpa [Part.inside, Statement.inside, Statement.strip] using same
    | insert i =>
      obtain ⟨table, source, embedded⟩ := i
      obtain ⟨_, same⟩ := List.forall_mem_cons.mp same
      obtain ⟨rows, others⟩ := List.forall_mem_append.mp same
      rw [strip_statement, Statement.strip, stripQueries_eq_self others]
      cases source with
      | none => rfl
      | some q => simpa [stripOption] using rows
    | update u =>
      obtain ⟨target, source, embedded⟩ := u
      obtain ⟨same, others⟩ := List.forall_mem_append.mp same
      obtain ⟨targets, sources⟩ := List.forall_mem_append.mp same
      rw [strip_statement, Statement.strip, stripItems_eq_self targets, stripItems_eq_self sources,
        stripQueries_eq_self others]
    | delete d =>
      obtain ⟨target, source, embedded⟩ := d
      obtain ⟨same, others⟩ := List.forall_mem_append.mp same
      obtain ⟨targets, sources⟩ := List.forall_mem_append.mp same
      rw [strip_statement, Statement.strip, stripItems_eq_self targets, stripItems_eq_self sources,
        stripQueries_eq_self others]
    | create c =>
      obtain ⟨kind, name, queries⟩ := c
      rw [strip_statement, Statement.strip,
        stripQueries_eq_self (List.forall_mem_append.mp same).2]
    | drop _ | alter _ | other _ => rfl
  | query q =>
    obtain ⟨ctes, recursive, body, trailing⟩ := q
    obtain ⟨named, same⟩ := List.forall_mem_append.mp same
    obtain ⟨own, others⟩ := List.forall_mem_cons.mp same
    rw [strip_query, Query.strip, stripCtes_eq_self named, stripQueries_eq_self others,
      Part.body.inj own]
  | body b =>
    cases b with
    | select s =>
      obtain ⟨source, embedded, into⟩ := s
      obtain ⟨same, others⟩ := List.forall_mem_append.mp same
      rw [strip_body, Body.strip, stripItems_eq_self (List.forall_mem_append.mp same).2,
        stripQueries_eq_self others]
    | setOperation op left right =>
      simpa [Part.inside, Body.inside, Body.strip] using same
    | nested q =>
      simpa [Part.inside, Body.inside, Body.strip_nested, needed] using same
    | values embedded => rw [strip_body, Body.strip, stripQueries_eq_self same]
    | table name => rfl
    | modify s => simpa [Part.inside, Body.inside, Body.strip] using same
  | item role i =>
    cases i with
    | table name => rfl
    | subquery q label => simpa [Part.inside, Item.inside, Item.strip] using same
    | function name embedded => rw [strip_item, Item.strip, stripQueries_eq_self same]
    | other embedded => rw [strip_item, Item.strip, stripQueries_eq_self same]
  | name _ _ => rfl

/-- A part in which nothing is redundant is left as it is. -/
theorem Part.strip_eq_self {p : Part} (needed : ¬ p.Has (·.redundant = true)) : p.strip = p := by
  induction p using Part.inductionInside with
  | h p ih =>
    rw [has_inside, not_or, Bool.not_eq_true] at needed
    obtain ⟨outside, inside⟩ := needed
    exact strip_eq_self_of_inside outside fun c hc =>
      ih c hc fun found => inside ⟨c, hc, found⟩

/-- Redundant parentheses change no decision: neither which relations are authorized, and for
what, or which forbidden one is reported; nor what the statement is taken for, its sections, or
whether it changes data. Without them stands a statement that has none, and one that has none
is left as it is. -/
theorem decision_strip (p : Policy) (s : Statement) :
    p.extract s.strip = p.extract s ∧ s.strip.classify = s.classify ∧
      s.strip.sections = s.sections ∧ s.strip.modifies = s.modifies ∧
      ¬ (Part.statement s.strip).Has (·.redundant = true) ∧
      (s.strip = s ↔ ¬ (Part.statement s).Has (·.redundant = true)) := by
  have none_left : ¬ (Part.statement s.strip).Has (·.redundant = true) :=
    (Part.statement s).not_has_redundant
  refine ⟨?_, s.classify_strip, s.sections_strip, s.modifies_strip, none_left, ?_, ?_⟩
  · rw [Policy.extract, Policy.extract, s.references_strip]
  · intro same
    rwa [same] at none_left
  · intro needed
    exact Part.statement.inj (Part.strip_eq_self needed)

end QueryGateway.Tree
