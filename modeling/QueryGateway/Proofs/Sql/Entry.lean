import QueryGateway.Sql.Lowering
import QueryGateway.Proofs.Tree.Part

/-! What a query holds.

An entry of a query is a relation that it names, with what is done to it, or a query that
stands in one of its clauses with no other query around it. What the grammar reads has its
entries `found`, those that have a place in the statement's tree apart from those that are
aside; what a tree has are the entries `held`. -/
namespace QueryGateway

namespace Sql.Ast

/-! ### Entries of what the grammar reads -/

/-- A relation with what is done to it, or a query. -/
inductive Entry where
  | name (role : Role) (relation : String)
  | query (q : Query)

/-- The entries of a piece of a statement. -/
structure Found where
  placed : List Entry := []
  aside : List Entry := []

namespace Found

/-- Entries that all have a place. -/
def of (entries : List Entry) : Found := ⟨entries, []⟩

instance : Append Found := ⟨fun f g => ⟨f.placed ++ g.placed, f.aside ++ g.aside⟩⟩

/-- All entries, with a place or without. -/
def all (f : Found) : List Entry := f.placed ++ f.aside

/-- The entries of a piece that is itself aside. -/
def hide (f : Found) : Found := ⟨[], f.all⟩

@[simp] theorem placed_of (entries : List Entry) : (of entries).placed = entries := rfl

@[simp] theorem placed_append (f g : Found) : (f ++ g).placed = f.placed ++ g.placed := rfl

@[simp] theorem placed_hide (f : Found) : f.hide.placed = [] := rfl

@[simp] theorem aside_append (f g : Found) : (f ++ g).aside = f.aside ++ g.aside := rfl

@[simp] theorem aside_hide (f : Found) : f.hide.aside = f.all := rfl

end Found

mutual

/-- The entries of an expression. -/
def Expr.found : Expr → Found
  | .name _ | .literal => {}
  | .call parts | .path parts | .form parts => exprsFound parts
  | .query q => .of [.query q]
  | .aside parts => (exprsFound parts).hide

/-- The entries of expressions. -/
def exprsFound : List Expr → Found
  | [] => {}
  | e :: rest => e.found ++ exprsFound rest

end

mutual

/-- What the joins of a table are conditioned on. -/
def Joined.conditions : Joined → List Expr
  | ⟨first, joins⟩ => first.conditions ++ joinConditions joins

/-- What joins are conditioned on, those inside their tables included. -/
def joinConditions : List Join → List Expr
  | [] => []
  | ⟨table, condition⟩ :: rest => table.conditions ++ condition ++ joinConditions rest

/-- What the joins inside one item of a `FROM` list are conditioned on; the columns of their
alias go with them. -/
def Factor.conditions : Factor → List Expr
  | .joined j columns => j.conditions ++ columns
  | _ => []

end

mutual

/-- The entries of a table and its joins, without their conditions; `role` is what is done
to the tables. -/
def Joined.items (role : Role) : Joined → Found
  | ⟨first, joins⟩ => first.items role ++ joinItems role joins

/-- The entries of joins, without their conditions. -/
def joinItems (role : Role) : List Join → Found
  | [] => {}
  | ⟨table, _⟩ :: rest => table.items role ++ joinItems role rest

/-- The entries of one item of a `FROM` list. -/
def Factor.items (role : Role) : Factor → Found
  | .table name aside => .of [.name role name.relation] ++ (exprsFound aside).hide
  | .function _ arguments aside => exprsFound arguments ++ (exprsFound aside).hide
  | .derived q _ aside => .of [.query q] ++ (exprsFound aside).hide
  | .joined j _ => j.items role
  | .turned inside parts =>
    exprsFound parts ++ (inside.items role ++ exprsFound inside.conditions).hide
  | .other parts => exprsFound parts

end

/-- The entries of joined tables, without the conditions of the joins. -/
def tablesItems (role : Role) : List Joined → Found
  | [] => {}
  | j :: rest => j.items role ++ tablesItems role rest

/-- What joined tables are conditioned on. -/
def tablesConditions (tables : List Joined) : List Expr := tables.flatMap Joined.conditions

/-- The entries of a `WITH` list. -/
def ctesFound : List Cte → Found
  | [] => {}
  | ⟨_, q, aside⟩ :: rest => .of [.query q] ++ (exprsFound aside).hide ++ ctesFound rest

/-- The entries of a select. -/
def Select.found : Select → Found
  | ⟨projection, into, source, conditions⟩ =>
    .of (into.toList.map fun n => .name .write n.relation) ++ tablesItems .read source
      ++ exprsFound projection ++ exprsFound (tablesConditions source) ++ exprsFound conditions

/-- The entries of an insertion. -/
def Insert.found : Insert → Found
  | ⟨table, source, conflict, returning, aside⟩ =>
    .of (.name .write table.relation :: source.toList.map .query) ++ exprsFound conflict
      ++ exprsFound returning ++ (exprsFound aside).hide

/-- The entries of an update. The conditions of its target's joins are aside. -/
def Update.found : Update → Found
  | ⟨target, source, assignments, condition, returning, aside⟩ =>
    target.items .write ++ tablesItems .read source ++ exprsFound (tablesConditions source)
      ++ exprsFound assignments ++ exprsFound condition ++ exprsFound returning
      ++ (exprsFound target.conditions).hide ++ (exprsFound aside).hide

/-- The entries of a deletion. -/
def Delete.found : Delete → Found
  | ⟨listed, target, others, condition, returning, aside⟩ =>
    tablesItems .write target ++ .of (listed.map fun n => .name .write n.relation)
      ++ tablesItems .read others ++ exprsFound (tablesConditions target)
      ++ exprsFound (tablesConditions others) ++ exprsFound condition ++ exprsFound returning
      ++ (exprsFound aside).hide

/-- The entries of a query's body. -/
def Body.found : Body → Found
  | .select s => s.found
  | .nested q => .of [.query q]
  | .setOperation _ left right => left.found ++ right.found
  | .values rows => exprsFound rows
  | .table name => .of [.name .read (relationName name)]
  | .insert i => i.found
  | .update u => u.found
  | .delete | .merge => {}
  | .command _ source => (Found.of [.query source]).hide

/-- The entries of a query. -/
def Query.found : Query → Found
  | ⟨ctes, _, body, trailing⟩ => ctesFound ctes ++ body.found ++ exprsFound trailing

/-- The entries of a statement. -/
def Statement.found : Statement → Found
  | .query q => .of [.query q]
  | .insert i => i.found
  | .update u => u.found
  | .delete d => d.found
  | .createView h parts | .createTable h parts =>
    .of (h.created.toList.map (.name .write)) ++ exprsFound parts
  | .createOther _ parts | .drop _ parts | .alter _ parts | .other _ parts => exprsFound parts

end Sql.Ast

/-! ### Entries of a tree -/

namespace Tree

/-- The entries of an item of which `role` is done to its tables. -/
def Item.held (role : Role) : Item → List Part
  | .table name => [.name role name]
  | .subquery q _ => [.query q]
  | .function _ embedded | .other embedded => embedded.map .query

/-- The entries of items. -/
def itemsHeld (role : Role) (items : List Item) : List Part := items.flatMap (Item.held role)

mutual

/-- The entries of a statement. -/
def Statement.held : Statement → List Part
  | .query q => [.query q]
  | .insert ⟨table, source, embedded⟩ =>
    .name .write table :: source.toList.map .query ++ embedded.map .query
  | .update ⟨target, source, embedded⟩ =>
    itemsHeld .write target ++ itemsHeld .read source ++ embedded.map .query
  | .delete ⟨targets, source, embedded⟩ =>
    itemsHeld .write targets ++ itemsHeld .read source ++ embedded.map .query
  | .create ⟨_, name, queries⟩ => name.toList.map (.name .write) ++ queries.map .query
  | .drop _ | .alter _ | .other _ => []

/-- The entries of a body. -/
def Body.held : Body → List Part
  | .select ⟨source, embedded, into⟩ =>
    into.toList.map (.name .write) ++ itemsHeld .read source ++ embedded.map .query
  | .setOperation _ left right => left.held ++ right.held
  | .nested q => [.query q]
  | .values embedded => embedded.map .query
  | .table name => [.name .read name]
  | .modify s => s.held

end

/-- The entries of a query. -/
def Query.held : Query → List Part
  | ⟨ctes, _, body, trailing⟩ =>
    ctes.map (fun c => .query c.query) ++ body.held ++ trailing.map .query

/-- A query, a change of data or a creation; of all other statements a tree keeps no
queries. -/
def Statement.keepsQueries : Statement → Bool
  | .query _ | .insert _ | .update _ | .delete _ | .create _ => true
  | .drop _ | .alter _ | .other _ => false

/-! ### Where the entries of a tree stand -/

theorem Part.has_self (p : Part) : p.Has (· = p) := ⟨[], [], p, .here p, rfl⟩

theorem Part.Has.trans {p q : Part} {P : Part → Prop} (h : p.Has (· = q)) (h' : q.Has P) :
    p.Has P := by
  obtain ⟨path, names, _, leads, rfl⟩ := h
  obtain ⟨path', names', c, leads', hc⟩ := h'
  exact ⟨_, _, c, leads.append leads', hc⟩

/-- A part stands somewhere in one of these. -/
def Part.Amid (p : Part) (inside : List (Step × Part)) : Prop := ∃ c ∈ inside, c.2.Has (· = p)

section Amid

variable {p : Part} {inside inside' : List (Step × Part)}

theorem amid_append : p.Amid (inside ++ inside') ↔ p.Amid inside ∨ p.Amid inside' := by
  constructor
  · intro amid
    obtain ⟨c, hc, has⟩ := amid
    exact (List.mem_append.mp hc).imp (⟨c, ·, has⟩) (⟨c, ·, has⟩)
  · intro amid
    rcases amid with ⟨c, hc, has⟩ | ⟨c, hc, has⟩
    · exact ⟨c, List.mem_append_left _ hc, has⟩
    · exact ⟨c, List.mem_append_right _ hc, has⟩

theorem amid_cons {c : Step × Part} :
    p.Amid (c :: inside) ↔ c.2.Has (· = p) ∨ p.Amid inside := by
  simp [Part.Amid]

theorem amid_numbered {α : Type} {step : Nat → Step} {part : α → Part} {xs : List α} :
    p.Amid (numbered step part xs) ↔ ∃ x ∈ xs, (part x).Has (· = p) :=
  exists_numbered (P := fun c => c.Has (· = p))

theorem amid_of_mem_map {α : Type} {step : Nat → Step} {part : α → Part} {xs : List α}
    (h : p ∈ xs.map part) : p.Amid (numbered step part xs) := by
  obtain ⟨x, hx, rfl⟩ := List.mem_map.mp h
  exact amid_numbered.mpr ⟨x, hx, Part.has_self _⟩

theorem amid_cons_self (step : Step) : p.Amid ((step, p) :: inside) :=
  ⟨(step, p), List.mem_cons_self .., p.has_self⟩

theorem amid_of_mem_steps {α : Type} {step : Step} {part : α → Part} {xs : List α}
    (h : p ∈ xs.map part) : p.Amid (xs.map fun x => (step, part x)) := by
  obtain ⟨x, hx, rfl⟩ := List.mem_map.mp h
  exact ⟨(step, part x), List.mem_map.mpr ⟨x, hx, rfl⟩, Part.has_self _⟩

end Amid

theorem Item.amid_of_held {role : Role} (i : Item) {p : Part} (h : p ∈ i.held role) :
    p.Amid (i.inside role) := by
  cases i with
  | table name =>
    cases List.mem_singleton.mp h
    exact amid_cons_self _
  | subquery q label =>
    cases List.mem_singleton.mp h
    exact amid_cons_self _
  | function name embedded => exact amid_of_mem_map h
  | other embedded => exact amid_of_mem_map h

theorem amid_of_itemsHeld {role : Role} {items : List Item} {step : Nat → Step} {p : Part}
    (h : p ∈ itemsHeld role items) : p.Amid (numbered step (.item role) items) := by
  obtain ⟨i, hi, hp⟩ := List.mem_flatMap.mp h
  exact amid_numbered.mpr ⟨i, hi, has_inside.mpr (.inr (i.amid_of_held hp))⟩

mutual

theorem Statement.amid_of_held (s : Statement) {p : Part} (h : p ∈ s.held) :
    p.Amid s.inside := by
  cases s with
  | query q =>
    cases List.mem_singleton.mp h
    exact amid_cons_self _
  | insert i =>
    obtain ⟨table, source, embedded⟩ := i
    rw [Statement.held, List.mem_append, List.mem_cons] at h
    rw [Statement.inside, amid_append, amid_cons]
    refine h.imp (.imp ?_ amid_of_mem_steps) amid_of_mem_map
    rintro rfl
    exact Part.has_self _
  | update u =>
    obtain ⟨target, source, embedded⟩ := u
    rw [Statement.held, List.mem_append, List.mem_append] at h
    rw [Statement.inside, amid_append, amid_append]
    exact h.imp (.imp amid_of_itemsHeld amid_of_itemsHeld) amid_of_mem_map
  | delete d =>
    obtain ⟨targets, source, embedded⟩ := d
    rw [Statement.held, List.mem_append, List.mem_append] at h
    rw [Statement.inside, amid_append, amid_append]
    exact h.imp (.imp amid_of_itemsHeld amid_of_itemsHeld) amid_of_mem_map
  | create c =>
    obtain ⟨kind, name, queries⟩ := c
    rw [Statement.held, List.mem_append] at h
    rw [Statement.inside, amid_append]
    exact h.imp amid_of_mem_steps amid_of_mem_map
  | drop _ => cases h
  | alter _ => cases h
  | other _ => cases h

theorem Body.amid_of_held (b : Body) {p : Part} (h : p ∈ b.held) : p.Amid b.inside := by
  cases b with
  | select s =>
    obtain ⟨source, embedded, into⟩ := s
    rw [Body.held, List.mem_append, List.mem_append] at h
    rw [Body.inside, amid_append, amid_append]
    exact h.imp (.imp amid_of_mem_steps amid_of_itemsHeld) amid_of_mem_map
  | setOperation op left right =>
    rw [Body.held, List.mem_append] at h
    rw [Body.inside, amid_cons, amid_cons]
    exact h.imp (has_inside.mpr <| .inr <| left.amid_of_held ·)
      (.inl <| has_inside.mpr <| .inr <| right.amid_of_held ·)
  | nested q =>
    cases List.mem_singleton.mp h
    exact amid_cons_self _
  | values embedded => exact amid_of_mem_map h
  | table name =>
    cases List.mem_singleton.mp h
    exact amid_cons_self _
  | modify s =>
    rw [Body.held] at h
    exact amid_cons.mpr (.inl (has_inside.mpr (.inr (s.amid_of_held h))))

end

/-- An entry of a query stands inside it. -/
theorem Query.amid_of_held (q : Query) {p : Part} (h : p ∈ q.held) : p.Amid q.inside := by
  obtain ⟨ctes, recursive, body, trailing⟩ := q
  rw [Query.held, List.mem_append, List.mem_append] at h
  rw [Query.inside, amid_append, amid_cons, ← or_assoc]
  refine h.imp (.imp amid_of_mem_map ?_) amid_of_mem_map
  intro hbody
  exact has_inside.mpr (.inr (body.amid_of_held hbody))

/-! ### Induction over the queries of a tree -/

theorem Leads.size_le {p q : Part} {path : Path} {names : List String}
    (h : Leads p path names q) : q.size ≤ p.size := by
  induction h with
  | here => exact Nat.le_refl _
  | step into _ ih => exact Nat.le_trans ih (Nat.le_of_lt (Part.within_of_mem into).size_lt)

theorem Query.sizeOf_lt_of_held {q r : Query} (h : .query r ∈ q.held) : sizeOf r < sizeOf q := by
  obtain ⟨⟨step, c⟩, hc, path, names, _, leads, rfl⟩ := q.amid_of_held h
  have inside : c.size < (Part.query q).size := (Part.within_of_mem hc).size_lt
  exact Nat.lt_of_le_of_lt leads.size_le inside

/-- Induction from the queries that a query holds to the query. -/
theorem Query.inductionHeld {motive : Query → Prop}
    (h : ∀ q, (∀ r, .query r ∈ q.held → motive r) → motive q) (q : Query) : motive q :=
  h q fun r _ => Query.inductionHeld h r
termination_by sizeOf q
decreasing_by exact Query.sizeOf_lt_of_held ‹_›

end Tree

end QueryGateway
