import QueryGateway.Proofs.Relation.Exactness

/-! A query with one more entry in front of its `WITH` list.

The entry's name is visible everywhere in the query behind it, and no other name becomes
visible or is lost. So a path that leads to a name leads there still, past the entry, and the
name occurs there still if the entry leaves it in sight (`occurs_withEntry_cases`); all other paths
lead into the entry's own query. -/
namespace QueryGateway.Tree

/-- The query with an entry in front of the others. -/
def Query.withEntry (q : Query) (c : Cte) : Query := { q with ctes := c :: q.ctes }

/-- What an entry of a name leaves in sight: qualified names, what is written, and names that
differ from its own in more than the case of letters. -/
def InSight (entry : String) (role : Role) (name : String) : Prop :=
  '.' ∈ name.toList ∨ role = .write ∨ name.toLower ≠ entry.toLower

/-! ### Visible names -/

theorem bound_cons (entry : String) (names : List String) (name : String) :
    Bound (entry :: names) name ↔ Bound [entry] name ∨ Bound names name := by
  rw [← List.singleton_append, bound_append]

theorem inSight_iff {entry : String} {role : Role} {name : String} :
    InSight entry role name ↔ (role = .read → ¬ Bound [entry] name) := by
  have bound : Bound [entry] name ↔ '.' ∉ name.toList ∧ entry.toLower = name.toLower := by
    simp [Bound]
  rw [InSight, bound]
  cases role with
  | read => grind
  | write => simp

/-! ### Steps past the entry -/

/-- The step that leads where a step led before the entry was there. -/
def Step.past : Step → Step
  | .cte i => .cte (i + 1)
  | s => s

variable {q : Query} {c : Cte} {path : Path} {names : List String} {role : Role} {name : String}

theorem map_numbered {α : Type} (f : Step → Step) (step : Nat → Step) (part : α → Part)
    (xs : List α) : (numbered step part xs).map (Prod.map f id) =
      numbered (fun i => f (step i)) part xs := by
  induction xs generalizing step with
  | nil => rfl
  | cons x xs ih => rw [numbered_cons, numbered_cons, List.map_cons, ih]; rfl

/-- The entry stands in front, and everything else where it stood. -/
theorem inside_withEntry (q : Query) (c : Cte) : (Part.query (q.withEntry c)).inside =
    (.cte 0, .query c.query) :: (Part.query q).inside.map (Prod.map Step.past id) := by
  obtain ⟨ctes, recursive, body, trailing⟩ := q
  simp only [Part.inside, Query.inside, Query.withEntry, numbered_cons, List.map_append,
    List.map_cons, map_numbered, List.cons_append]
  rfl

theorem visible_past (q : Query) (c : Cte) (s : Step) :
    (Part.query (q.withEntry c)).visible s.past = c.name :: (Part.query q).visible s := by
  cases s with
  | cte i =>
    show (if q.recursive then _ else _) = c.name :: (if q.recursive then _ else _)
    split <;> rfl
  | _ => rfl

/-- A path into the query with the entry leads into the entry, or past it as it led before. -/
theorem leads_withEntry : Leads (.query (q.withEntry c)) path names (.name role name) ↔
    (∃ rest inner, path = .cte 0 :: rest ∧
      names = (Part.query (q.withEntry c)).visible (.cte 0) ++ inner ∧
      Leads (.query c.query) rest inner (.name role name)) ∨
    ∃ s rest before, path = s.past :: rest ∧ names = c.name :: before ∧
      Leads (.query q) (s :: rest) before (.name role name) := by
  constructor
  · intro leads
    cases leads with
    | step into rest =>
      rw [inside_withEntry] at into
      rcases List.mem_cons.mp into with first | later
      · cases first
        exact .inl ⟨_, _, rfl, rfl, rest⟩
      · obtain ⟨⟨s, p⟩, before, same⟩ := List.mem_map.mp later
        cases same
        refine .inr ⟨s, _, _, rfl, ?_, .step before rest⟩
        rw [visible_past]
        rfl
  · intro parts
    rcases parts with ⟨rest, inner, rfl, rfl, leads⟩ | ⟨s, rest, before, rfl, rfl, leads⟩
    · refine .step ?_ leads
      rw [inside_withEntry]
      exact List.mem_cons_self ..
    · cases leads with
      | @step _ p _ _ _ inner into leads =>
        have there : (s.past, p) ∈ (Part.query (q.withEntry c)).inside := by
          rw [inside_withEntry]
          exact List.mem_cons_of_mem _ (List.mem_map.mpr ⟨(s, p), into, rfl⟩)
        have led := Leads.step there leads
        rwa [visible_past] at led

/-! ### Occurrences -/

theorem leads_whole {q : Query} : Leads (.statement (.query q)) path names (.name role name) ↔
    ∃ rest, path = .whole :: rest ∧ Leads (.query q) rest names (.name role name) := by
  constructor
  · intro leads
    cases leads with
    | step into rest =>
      cases List.mem_singleton.mp into
      exact ⟨_, rfl, rest⟩
  · intro leads
    obtain ⟨rest, rfl, leads⟩ := leads
    exact .step (List.mem_singleton.mpr rfl) leads

theorem occurs_query {q : Query} : Occurs (.query q) path role name ↔ ∃ rest names,
    path = .whole :: rest ∧ Leads (.query q) rest names (.name role name) ∧
      (role = .read → ¬ Bound names name) := by
  simp only [Occurs, leads_whole]
  grind

/-- What the entry leaves in sight occurs where it occurred, one entry further on. -/
theorem Occurs.past (h : Occurs (.query q) path role name) (inSight : InSight c.name role name) :
    ∃ s rest, path = .whole :: s :: rest ∧
      Occurs (.query (q.withEntry c)) (.whole :: s.past :: rest) role name := by
  obtain ⟨rest, names, rfl, leads, free⟩ := occurs_query.mp h
  cases leads with
  | @step _ _ _ s rest inner into leads =>
    have there : Leads (.query (q.withEntry c)) (s.past :: rest)
        (c.name :: ((Part.query q).visible s ++ inner)) (.name role name) :=
      leads_withEntry.mpr (.inr ⟨s, rest, _, rfl, rfl, .step into leads⟩)
    refine ⟨s, rest, rfl, occurs_query.mpr ⟨_, _, rfl, there, ?_⟩⟩
    intro read bound
    rcases (bound_cons ..).mp bound with hidden | bound
    · exact inSight_iff.mp inSight read hidden
    · exact free read bound

/-- A name that occurs in the query with the entry occurs in the entry's own query, or it
occurred before and the entry leaves it in sight. -/
theorem occurs_withEntry_cases (h : Occurs (.query (q.withEntry c)) path role name) :
    (∃ rest, path = .whole :: .cte 0 :: rest ∧
      Occurs (.query c.query) (.whole :: rest) role name) ∨
    ∃ s rest, path = .whole :: s.past :: rest ∧
      Occurs (.query q) (.whole :: s :: rest) role name ∧ InSight c.name role name := by
  obtain ⟨rest, names, rfl, leads, free⟩ := occurs_query.mp h
  rcases leads_withEntry.mp leads with
    ⟨rest, inner, rfl, rfl, within⟩ | ⟨s, rest, before, rfl, rfl, led⟩
  · refine .inl ⟨rest, rfl, occurs_query.mpr ⟨rest, inner, rfl, within, fun read bound => ?_⟩⟩
    exact free read (bound_append.mpr (.inr bound))
  · refine .inr ⟨s, rest, rfl, occurs_query.mpr ⟨_, before, rfl, led, ?_⟩, inSight_iff.mpr ?_⟩
    · exact fun read bound => free read ((bound_cons ..).mpr (.inr bound))
    · exact fun read hidden => free read ((bound_cons ..).mpr (.inl hidden))

/-! ### Relation sets -/

/-- **A `WITH` entry put in front of the others hides plain reads of its own name alone.**
Whatever else occurs in the query is not forbidden and stays in the relation set, and as
written if it is written; beyond that the set holds what occurs in the entry's own query. -/
theorem extract_withEntry {p : Policy} {q : Query} {c : Cte} {set : RelationSet}
    (extracted : p.extract (.query (q.withEntry c)) = .ok set) :
    (∀ path role name, Occurs (.query q) path role name → InSight c.name role name →
      p.forbids name = false ∧
        ∃ r ∈ set.references, r.name = name ∧ (role = .write → r.role = .write)) ∧
    ∀ r ∈ set.references,
      (∃ path, Occurs (.query q) path r.role r.name ∧ InSight c.name r.role r.name) ∨
      ∃ rest, Occurs (.query (q.withEntry c)) (.whole :: .cte 0 :: rest) r.role r.name ∧
        Occurs (.query c.query) (.whole :: rest) r.role r.name := by
  constructor
  · intro path role name occurs inSight
    obtain ⟨s, rest, rfl, there⟩ := occurs.past inSight
    obtain ⟨checked, found⟩ := extract_of_occurs there p
    refine ⟨Bool.eq_false_iff.mpr fun forbidden => ?_, found set extracted⟩
    obtain ⟨e, failed⟩ := checked forbidden
    rw [extracted] at failed
    cases failed
  · intro r hr
    obtain ⟨path, there⟩ := (exact_of_extract extracted).exists_occurs hr
    rcases occurs_withEntry_cases there with ⟨rest, rfl, alone⟩ | ⟨s, rest, rfl, before, inSight⟩
    · exact .inr ⟨rest, there, alone⟩
    · exact .inl ⟨_, before, inSight⟩

/-- `WITH v AS (TABLE w) SELECT * INTO w FROM w, public.w, b`. -/
def copyOfW : Query :=
  ⟨[⟨"v", ⟨[], false, .table "w", []⟩⟩], false,
    .select ⟨[.table "w", .table "public.w", .table "b"], [], some "w"⟩, []⟩

/-- The entry `W AS (TABLE a)`. -/
def entryW : Cte := ⟨"W", ⟨[], false, .table "a", []⟩⟩

/-- What is left of the relations with the entry. -/
def copyOfWSet : RelationSet :=
  ⟨[⟨"a", .read, .subquery⟩, ⟨"w", .write, .own⟩, ⟨"public.w", .read, .own⟩, ⟨"b", .read, .own⟩]⟩

theorem references_copyOfW : (Statement.query (copyOfW.withEntry entryW)).references =
    copyOfWSet.references := by
  have capital : "W".toLower = "w" := by decide +kernel
  have small : "w".toLower = "w" := by decide +kernel
  have apart : "b".toLower ≠ "w" ∧ "b".toLower ≠ "v".toLower := by decide +kernel
  simp [Query.withEntry, copyOfW, entryW, copyOfWSet, Statement.references, Statement.mentions,
    Query.mentions, ctesInOrder, boundNames, Body.mentions, itemsMentions, Item.mentions,
    queriesMentions, mention, readOf, Scope.binds, capital, small, apart]

/-- Behind the entry the two plain reads of `w` are gone; that `w` is written is not. -/
theorem copyOfW_withEntry :
    ({} : Policy).extract (.query (copyOfW.withEntry entryW)) = .ok copyOfWSet ∧
    Occurs (.query copyOfW) [.whole, .body, .named] .write "w" ∧ InSight "W" .write "w" ∧
    ({} : Policy).forbids "w" = false ∧
    (∃ r ∈ copyOfWSet.references, r.name = "w" ∧ r.role = .write) ∧
    ∀ r ∈ copyOfWSet.references,
      (∃ path, Occurs (.query copyOfW) path r.role r.name ∧ InSight "W" r.role r.name) ∨
      ∃ rest, Occurs (.query (copyOfW.withEntry entryW)) (.whole :: .cte 0 :: rest) r.role r.name ∧
        Occurs (.query entryW.query) (.whole :: rest) r.role r.name := by
  have extracted : ({} : Policy).extract (.query (copyOfW.withEntry entryW)) = .ok copyOfWSet := by
    refine extract_eq_ok.mpr ⟨?_, ?_⟩
    · rw [references_copyOfW]
      decide +kernel
    · rw [references_copyOfW]
      decide +kernel
  have written : Leads (.statement (.query copyOfW)) [.whole, .body, .named] ["v"]
      (.name .write "w") := by
    refine .step (List.mem_singleton.mpr rfl) ?_
    refine .step (List.mem_cons_of_mem _ (List.mem_cons_self ..)) ?_
    exact .step (List.mem_cons_self ..) (.here _)
  have occurs : Occurs (.query copyOfW) [.whole, .body, .named] .write "w" :=
    ⟨_, written, nofun⟩
  have inSight : InSight "W" .write "w" := .inr (.inl rfl)
  obtain ⟨kept, nothingElse⟩ := extract_withEntry extracted
  obtain ⟨free, r, hr, named, write⟩ := kept _ _ _ occurs inSight
  exact ⟨extracted, occurs, inSight, free, ⟨r, hr, named, write rfl⟩, nothingElse⟩

end QueryGateway.Tree
