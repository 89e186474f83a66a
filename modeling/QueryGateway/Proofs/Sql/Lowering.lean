import QueryGateway.Proofs.Except
import QueryGateway.Proofs.Sql.Entry

/-! What lowering keeps of a query, one level deep.

What a query has in its place is what its tree holds: entry by entry, a relation as
itself and a query lowered (`lowerQuery_paired`). Nothing is said of what is aside. -/
namespace QueryGateway

namespace Sql

open Ast

/-- A text has a tree if it holds one statement that can be lowered. -/
theorem parse_eq_ok {text : String} {tree : Tree.Statement} (h : parse text = .ok tree) :
    ∃ s, read text.toList = some [s] ∧ lowerStatement s = .ok tree := by
  unfold parse at h
  split at h
  · cases h
  · split at h
    · cases h
    · cases h
    · exact ⟨_, ‹_›, h⟩
    · cases h

/-! ### Entries side by side -/

/-- Every entry of the one list stands for exactly one of the other list. -/
def Paired (R : Entry → Tree.Part → Prop) (entries : List Entry) (parts : List Tree.Part) :
    Prop :=
  ∃ pairs : List (Entry × Tree.Part), pairs.map Prod.fst = entries ∧
    (pairs.map Prod.snd).Perm parts ∧ ∀ pair ∈ pairs, R pair.1 pair.2

namespace Paired

variable {R R' : Entry → Tree.Part → Prop} {es es' : List Entry} {ps ps' : List Tree.Part}

theorem nil : Paired R [] [] := ⟨[], rfl, .refl _, nofun⟩

theorem single {e : Entry} {p : Tree.Part} (h : R e p) : Paired R [e] [p] := by
  refine ⟨[(e, p)], rfl, .refl _, ?_⟩
  intro pair hpair
  cases List.mem_singleton.mp hpair
  exact h

theorem append (h : Paired R es ps) (h' : Paired R es' ps') :
    Paired R (es ++ es') (ps ++ ps') := by
  obtain ⟨pairs, each, once, hR⟩ := h
  obtain ⟨pairs', each', once', hR'⟩ := h'
  refine ⟨pairs ++ pairs', ?_, ?_, ?_⟩
  · rw [List.map_append, each, each']
  · rw [List.map_append]
    exact once.append once'
  · intro pair hpair
    exact (List.mem_append.mp hpair).elim (hR pair) (hR' pair)

theorem map {α : Type} {f : α → Entry} {g : α → Tree.Part} (h : ∀ a, R (f a) (g a))
    (as : List α) : Paired R (as.map f) (as.map g) := by
  induction as with
  | nil => exact nil
  | cons a as ih => exact (single (h a)).append ih

theorem length_eq (h : Paired R es ps) : es.length = ps.length := by
  obtain ⟨pairs, rfl, once, _⟩ := h
  rw [← once.length_eq, List.length_map, List.length_map]

theorem exists_of_mem (h : Paired R es ps) {e : Entry} (he : e ∈ es) : ∃ p ∈ ps, R e p := by
  obtain ⟨pairs, rfl, once, hR⟩ := h
  obtain ⟨⟨_, p⟩, hpair, rfl⟩ := List.mem_map.mp he
  exact ⟨p, once.mem_iff.mp (List.mem_map_of_mem hpair), hR _ hpair⟩

theorem imp (h : Paired R es ps) (hR : ∀ e ∈ es, ∀ p ∈ ps, R e p → R' e p) :
    Paired R' es ps := by
  obtain ⟨pairs, rfl, once, hpairs⟩ := h
  refine ⟨pairs, rfl, once, ?_⟩
  intro pair hpair
  exact hR _ (List.mem_map_of_mem hpair) _ (once.mem_iff.mp (List.mem_map_of_mem hpair))
    (hpairs pair hpair)

end Paired

/-- An entry and what it becomes: a relation stays, a query is lowered. -/
inductive LowersTo : Entry → Tree.Part → Prop
  | name (role : Role) (relation : String) : LowersTo (.name role relation) (.name role relation)
  | query {q : Query} {t : Tree.Query} (lowered : lowerQuery q = .ok t) :
      LowersTo (.query q) (.query t)

/-! ### Expressions -/

mutual

theorem lowerExpr_paired {e : Expr} {ts : List Tree.Query} (h : lowerExpr e = .ok ts) :
    Paired LowersTo e.found.placed (ts.map .query) := by
  cases e with
  | name n =>
    cases h
    exact .nil
  | literal =>
    cases h
    exact .nil
  | call parts => exact lowerExprs_paired h
  | path parts => exact lowerExprs_paired h
  | form parts => exact lowerExprs_paired h
  | query q =>
    obtain ⟨t, lowered, h⟩ := except_bind_eq_ok.mp h
    cases h
    exact .single (.query lowered)
  | aside parts =>
    cases h
    exact .nil

theorem lowerExprs_paired {es : List Expr} {ts : List Tree.Query} (h : lowerExprs es = .ok ts) :
    Paired LowersTo (exprsFound es).placed (ts.map .query) := by
  cases es with
  | nil =>
    cases h
    exact .nil
  | cons e rest =>
    obtain ⟨first, hfirst, h⟩ := except_bind_eq_ok.mp h
    obtain ⟨others, hothers, h⟩ := except_bind_eq_ok.mp h
    cases h
    rw [List.map_append]
    exact (lowerExpr_paired hfirst).append (lowerExprs_paired hothers)

end

theorem exprsFound_append (es es' : List Expr) :
    (exprsFound (es ++ es')).placed = (exprsFound es).placed ++ (exprsFound es').placed := by
  induction es with
  | nil => rfl
  | cons e rest ih =>
    rw [List.cons_append, exprsFound, exprsFound, Found.placed_append, ih, Found.placed_append,
      List.append_assoc]

/-! ### Tables -/

/-- Items and queries beside them hold what a table and its joins have in their places and in
their conditions. -/
structure Sources (role : Role) (tables : Found) (conditions : List Expr)
    (lowered : List Tree.Item × List Tree.Query) : Prop where
  items : Paired LowersTo tables.placed (Tree.itemsHeld role lowered.1)
  among : Paired LowersTo (exprsFound conditions).placed (lowered.2.map .query)

namespace Sources

variable {role : Role} {tables tables' : Found} {conditions conditions' : List Expr}
  {items items' : List Tree.Item} {among among' : List Tree.Query}

theorem none : Sources role {} [] ([], []) := ⟨.nil, .nil⟩

theorem append (h : Sources role tables conditions (items, among))
    (h' : Sources role tables' conditions' (items', among')) :
    Sources role (tables ++ tables') (conditions ++ conditions')
      (items ++ items', among ++ among') := by
  constructor
  · rw [Tree.itemsHeld, List.flatMap_append]
    exact h.items.append h'.items
  · rw [exprsFound_append, List.map_append]
    exact h.among.append h'.among

/-- An item alone. -/
theorem one {item : Tree.Item} (h : Paired LowersTo tables.placed (item.held role)) :
    Sources role tables [] ([item], []) := by
  refine ⟨?_, .nil⟩
  rw [Tree.itemsHeld, List.flatMap_cons, List.flatMap_nil, List.append_nil]
  exact h

/-- More conditions, with the queries in them. -/
theorem behind (h : Sources role tables conditions (items, among)) {more : List Expr}
    {matched : List Tree.Query} (hmore : lowerExprs more = .ok matched) :
    Sources role tables (conditions ++ more) (items, among ++ matched) := by
  refine ⟨h.items, ?_⟩
  rw [exprsFound_append, List.map_append]
  exact h.among.append (lowerExprs_paired hmore)

end Sources

mutual

theorem lowerJoined_sources (role : Role) {j : Joined} {lowered : List Tree.Item × List Tree.Query}
    (h : lowerJoined j = .ok lowered) : Sources role (j.items role) j.conditions lowered := by
  obtain ⟨first, joins⟩ := j
  obtain ⟨⟨items, among⟩, hfirst, h⟩ := except_bind_eq_ok.mp h
  obtain ⟨⟨items', among'⟩, hjoins, h⟩ := except_bind_eq_ok.mp h
  cases h
  exact (lowerFactor_sources role hfirst).append (lowerJoins_sources role hjoins)

theorem lowerJoins_sources (role : Role) {joins : List Join}
    {lowered : List Tree.Item × List Tree.Query} (h : lowerJoins joins = .ok lowered) :
    Sources role (joinItems role joins) (joinConditions joins) lowered := by
  cases joins with
  | nil =>
    cases h
    exact .none
  | cons join rest =>
    obtain ⟨table, condition⟩ := join
    obtain ⟨⟨items, among⟩, htable, h⟩ := except_bind_eq_ok.mp h
    obtain ⟨matched, hmatched, h⟩ := except_bind_eq_ok.mp h
    obtain ⟨⟨items', among'⟩, hrest, h⟩ := except_bind_eq_ok.mp h
    cases h
    exact ((lowerFactor_sources role htable).behind hmatched).append
      (lowerJoins_sources role hrest)

theorem lowerFactor_sources (role : Role) {f : Factor}
    {lowered : List Tree.Item × List Tree.Query} (h : lowerFactor f = .ok lowered) :
    Sources role (f.items role) f.conditions lowered := by
  cases f with
  | table name aside =>
    cases h
    exact .one (.single (.name role _))
  | function | turned =>
    obtain ⟨embedded, hembedded, h⟩ := except_bind_eq_ok.mp h
    cases h
    refine .one ?_
    rw [Factor.items, Found.placed_append, Found.placed_hide, List.append_nil]
    exact lowerExprs_paired hembedded
  | derived q label aside =>
    obtain ⟨t, lowered, h⟩ := except_bind_eq_ok.mp h
    cases h
    exact .one (.single (.query lowered))
  | joined j columns =>
    obtain ⟨⟨items, among⟩, hj, h⟩ := except_bind_eq_ok.mp h
    obtain ⟨typed, htyped, h⟩ := except_bind_eq_ok.mp h
    cases h
    exact (lowerJoined_sources role hj).behind htyped
  | other parts =>
    obtain ⟨embedded, hembedded, h⟩ := except_bind_eq_ok.mp h
    cases h
    exact .one (lowerExprs_paired hembedded)

end

theorem lowerTables_sources (role : Role) {tables : List Joined}
    {lowered : List Tree.Item × List Tree.Query} (h : lowerTables tables = .ok lowered) :
    Sources role (tablesItems role tables) (tablesConditions tables) lowered := by
  induction tables generalizing lowered with
  | nil =>
    cases h
    exact .none
  | cons j rest ih =>
    obtain ⟨⟨items, among⟩, hj, h⟩ := except_bind_eq_ok.mp h
    obtain ⟨⟨items', among'⟩, hrest, h⟩ := except_bind_eq_ok.mp h
    cases h
    exact (lowerJoined_sources role hj).append (ih hrest)

/-! ### Queries -/

theorem lowerCtes_paired {ctes : List Cte} {ts : List Tree.Cte} (h : lowerCtes ctes = .ok ts) :
    Paired LowersTo (ctesFound ctes).placed (ts.map fun c => .query c.query) := by
  induction ctes generalizing ts with
  | nil =>
    cases h
    exact .nil
  | cons c rest ih =>
    obtain ⟨name, q, aside⟩ := c
    obtain ⟨t, lowered, h⟩ := except_bind_eq_ok.mp h
    obtain ⟨others, hothers, h⟩ := except_bind_eq_ok.mp h
    cases h
    exact (Paired.single (.query lowered)).append (ih hothers)

theorem lowerOption_paired {q : Option Query} {t : Option Tree.Query}
    (h : lowerOption q = .ok t) :
    Paired LowersTo (q.toList.map .query) (t.toList.map .query) := by
  cases q with
  | none =>
    cases h
    exact .nil
  | some q =>
    obtain ⟨t, lowered, h⟩ := except_bind_eq_ok.mp h
    cases h
    exact .single (.query lowered)

theorem lowerInsert_paired {i : Insert} {t : Tree.Insert} (h : lowerInsert i = .ok t) :
    Paired LowersTo i.found.placed (Tree.Statement.insert t).held := by
  obtain ⟨table, source, conflict, returning, aside⟩ := i
  obtain ⟨rows, hrows, h⟩ := except_bind_eq_ok.mp h
  obtain ⟨changed, hchanged, h⟩ := except_bind_eq_ok.mp h
  obtain ⟨given, hgiven, h⟩ := except_bind_eq_ok.mp h
  cases h
  simp only [Insert.found, Found.placed_append, Found.placed_of, Found.placed_hide,
    Tree.Statement.held, List.map_append, List.append_nil, List.cons_append, List.append_assoc]
  have named := Paired.single (LowersTo.name .write table.relation)
  exact named.append <| (lowerOption_paired hrows).append <|
    (lowerExprs_paired hchanged).append (lowerExprs_paired hgiven)

theorem lowerUpdate_paired {u : Update} {t : Tree.Update} (h : lowerUpdate u = .ok t) :
    Paired LowersTo u.found.placed (Tree.Statement.update t).held := by
  obtain ⟨target, source, assignments, condition, returning, aside⟩ := u
  obtain ⟨⟨targets, _⟩, htargets, h⟩ := except_bind_eq_ok.mp h
  obtain ⟨⟨items, among⟩, hitems, h⟩ := except_bind_eq_ok.mp h
  obtain ⟨changed, hchanged, h⟩ := except_bind_eq_ok.mp h
  obtain ⟨matched, hmatched, h⟩ := except_bind_eq_ok.mp h
  obtain ⟨given, hgiven, h⟩ := except_bind_eq_ok.mp h
  cases h
  simp only [Update.found, Found.placed_append, Found.placed_hide, Tree.Statement.held,
    List.map_append, List.append_nil, List.append_assoc]
  have sources := lowerTables_sources .read hitems
  exact (lowerJoined_sources .write htargets).items.append <| sources.items.append <|
    sources.among.append <| (lowerExprs_paired hchanged).append <|
    (lowerExprs_paired hmatched).append (lowerExprs_paired hgiven)

theorem lowerDelete_paired {d : Delete} {t : Tree.Delete} (h : lowerDelete d = .ok t) :
    Paired LowersTo d.found.placed (Tree.Statement.delete t).held := by
  obtain ⟨listed, target, others, condition, returning, aside⟩ := d
  obtain ⟨⟨targets, amongTargets⟩, htargets, h⟩ := except_bind_eq_ok.mp h
  obtain ⟨⟨items, among⟩, hitems, h⟩ := except_bind_eq_ok.mp h
  obtain ⟨matched, hmatched, h⟩ := except_bind_eq_ok.mp h
  obtain ⟨given, hgiven, h⟩ := except_bind_eq_ok.mp h
  cases h
  have names : Paired LowersTo (listed.map fun n => .name .write n.relation)
      (listed.flatMap fun n => [.name .write n.relation]) := by
    rw [← List.map_eq_flatMap]
    exact .map (fun n : Name => .name .write n.relation) listed
  simp only [Delete.found, Found.placed_append, Found.placed_of, Found.placed_hide,
    Tree.Statement.held, Tree.itemsHeld, List.flatMap_append, List.flatMap_map, List.map_append,
    List.append_nil, List.append_assoc]
  have changed := lowerTables_sources .write htargets
  have sources := lowerTables_sources .read hitems
  exact changed.items.append <| names.append <| sources.items.append <|
    changed.among.append <| sources.among.append <|
    (lowerExprs_paired hmatched).append (lowerExprs_paired hgiven)

theorem lowerSelect_paired {s : Select} {t : Tree.Body} (h : lowerBody (.select s) = .ok t) :
    Paired LowersTo s.found.placed t.held := by
  obtain ⟨projection, into, source, conditions⟩ := s
  obtain ⟨before, hbefore, h⟩ := except_bind_eq_ok.mp h
  obtain ⟨⟨items, among⟩, hitems, h⟩ := except_bind_eq_ok.mp h
  obtain ⟨after, hafter, h⟩ := except_bind_eq_ok.mp h
  cases h
  simp only [Select.found, Found.placed_append, Found.placed_of, Tree.Body.held,
    Option.toList_map, List.map_map, List.map_append, List.append_assoc]
  have created := Paired.map (fun n : Name => LowersTo.name .write n.relation) into.toList
  have sources := lowerTables_sources .read hitems
  exact created.append <| sources.items.append <| (lowerExprs_paired hbefore).append <|
    sources.among.append (lowerExprs_paired hafter)

theorem lowerBody_paired {b : Body} {t : Tree.Body} (h : lowerBody b = .ok t) :
    Paired LowersTo b.found.placed t.held := by
  cases b with
  | select s => exact lowerSelect_paired h
  | nested q =>
    obtain ⟨t, lowered, h⟩ := except_bind_eq_ok.mp h
    cases h
    exact .single (.query lowered)
  | setOperation op left right =>
    obtain ⟨l, hleft, h⟩ := except_bind_eq_ok.mp h
    obtain ⟨r, hright, h⟩ := except_bind_eq_ok.mp h
    cases h
    exact (lowerBody_paired hleft).append (lowerBody_paired hright)
  | values rows =>
    obtain ⟨embedded, hembedded, h⟩ := except_bind_eq_ok.mp h
    cases h
    exact lowerExprs_paired hembedded
  | table name =>
    cases h
    exact .single (.name .read _)
  | insert i =>
    obtain ⟨t, lowered, h⟩ := except_bind_eq_ok.mp h
    cases h
    exact lowerInsert_paired lowered
  | update u =>
    obtain ⟨t, lowered, h⟩ := except_bind_eq_ok.mp h
    cases h
    exact lowerUpdate_paired lowered
  | delete => cases h
  | merge => cases h
  | command keyword source =>
    cases h
    exact .nil

theorem lowerQuery_paired {q : Query} {t : Tree.Query} (h : lowerQuery q = .ok t) :
    Paired LowersTo q.found.placed t.held := by
  obtain ⟨ctes, recursive, body, trailing⟩ := q
  obtain ⟨named, hnamed, h⟩ := except_bind_eq_ok.mp h
  obtain ⟨b, hbody, h⟩ := except_bind_eq_ok.mp h
  obtain ⟨behind, hbehind, h⟩ := except_bind_eq_ok.mp h
  cases h
  exact ((lowerCtes_paired hnamed).append (lowerBody_paired hbody)).append
    (lowerExprs_paired hbehind)

/-! ### Statements -/

theorem creation_paired {created : Option String} {parts : List Expr} {ts : List Tree.Query}
    (h : lowerExprs parts = .ok ts) :
    Paired LowersTo (Found.of (created.toList.map (.name .write)) ++ exprsFound parts).placed
      (created.toList.map (.name .write) ++ ts.map .query) :=
  (Paired.map (LowersTo.name .write) created.toList).append (lowerExprs_paired h)

theorem lowerStatement_paired {s : Statement} {t : Tree.Statement} (h : lowerStatement s = .ok t)
    (keeps : t.keepsQueries = true) : Paired LowersTo s.found.placed t.held := by
  cases s with
  | query q =>
    obtain ⟨t, lowered, h⟩ := except_bind_eq_ok.mp h
    cases h
    exact .single (.query lowered)
  | insert i =>
    obtain ⟨t, lowered, h⟩ := except_bind_eq_ok.mp h
    cases h
    exact lowerInsert_paired lowered
  | update u =>
    obtain ⟨t, lowered, h⟩ := except_bind_eq_ok.mp h
    cases h
    exact lowerUpdate_paired lowered
  | delete d =>
    obtain ⟨t, lowered, h⟩ := except_bind_eq_ok.mp h
    cases h
    exact lowerDelete_paired lowered
  | createView heading parts =>
    obtain ⟨queries, lowered, h⟩ := except_bind_eq_ok.mp h
    cases h
    exact creation_paired lowered
  | createTable heading parts =>
    obtain ⟨queries, lowered, h⟩ := except_bind_eq_ok.mp h
    cases h
    exact creation_paired lowered
  | createOther object parts =>
    obtain ⟨queries, lowered, h⟩ := except_bind_eq_ok.mp h
    cases h
    exact lowerExprs_paired lowered
  | drop object parts =>
    cases h
    cases keeps
  | alter object parts =>
    cases h
    cases keeps
  | other keyword parts =>
    cases h
    cases keeps

end Sql

end QueryGateway
