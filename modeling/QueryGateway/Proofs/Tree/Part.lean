import QueryGateway.Policy

/-! Where in a statement something stands.

A statement is a tree of parts: statements, queries, bodies, items, and at the leaves the
names of relations, each with what is done to it. A `Step` leads from a part to one right
inside it, and a `Path` is a row of steps. `Leads` says where a path ends and which names
the `WITH` lists on its way make visible at its end.

`Within` says once and for all how one part can stand right inside another, and
`Part.inductionInside` is induction over the parts of a statement. -/
namespace QueryGateway.Tree

/-- A part of a statement. An item comes with what is done to it if it is a table. -/
inductive Part where
  | statement (s : Statement)
  | query (q : Query)
  | body (b : Body)
  | item (role : Role) (i : Item)
  | name (role : Role) (name : String)

/-- A step into a part; a number counts within the list that the step picks from. -/
inductive Step where
  /-- To the relation that a part names itself. -/
  | named
  /-- To the query of an entry of a `WITH` list. -/
  | cte (i : Nat)
  /-- From a query to its body. -/
  | body
  /-- To an item that is changed. -/
  | target (i : Nat)
  /-- To an item that is read. -/
  | source (i : Nat)
  /-- From an insertion to the query that gives its rows. -/
  | rows
  /-- To the sides of a set operation. -/
  | left
  | right
  /-- To a query embedded in a clause. -/
  | embedded (i : Nat)
  /-- To a query in the clauses behind a body. -/
  | trailing (i : Nat)
  /-- From a statement that is a query to the query. -/
  | whole
  /-- From a body that is a query to the query. -/
  | nested
  /-- From an item that is a query to the query. -/
  | derived
  /-- From a body that is a change to the statement. -/
  | change
  deriving DecidableEq, Repr

abbrev Path := List Step

/-! ### The parts inside a part -/

/-- The members of a list as parts, each with the step to it. -/
def numbered {α : Type} (step : Nat → Step) (part : α → Part) (xs : List α) :
    List (Step × Part) :=
  xs.mapIdx fun i x => (step i, part x)

def Statement.inside : Statement → List (Step × Part)
  | .query q => [(.whole, .query q)]
  | .insert ⟨table, source, embedded⟩ =>
    (.named, .name .write table) :: (source.toList.map fun q => (.rows, .query q))
      ++ numbered .embedded .query embedded
  | .update ⟨target, source, embedded⟩ =>
    numbered .target (.item .write) target ++ numbered .source (.item .read) source
      ++ numbered .embedded .query embedded
  | .delete ⟨targets, source, embedded⟩ =>
    numbered .target (.item .write) targets ++ numbered .source (.item .read) source
      ++ numbered .embedded .query embedded
  | .create ⟨_, name, queries⟩ =>
    (name.toList.map fun n => (.named, .name .write n)) ++ numbered .embedded .query queries
  | .drop _ | .alter _ | .other _ => []

def Query.inside : Query → List (Step × Part)
  | ⟨ctes, _, body, trailing⟩ =>
    numbered .cte (fun c => .query c.query) ctes ++ (.body, .body body)
      :: numbered .trailing .query trailing

def Body.inside : Body → List (Step × Part)
  | .select ⟨source, embedded, into⟩ =>
    (into.toList.map fun n => (.named, .name .write n)) ++ numbered .source (.item .read) source
      ++ numbered .embedded .query embedded
  | .setOperation _ left right => [(.left, .body left), (.right, .body right)]
  | .nested q => [(.nested, .query q)]
  | .values embedded => numbered .embedded .query embedded
  | .table name => [(.named, .name .read name)]
  | .modify s => [(.change, .statement s)]

def Item.inside (role : Role) : Item → List (Step × Part)
  | .table name => [(.named, .name role name)]
  | .subquery q _ => [(.derived, .query q)]
  | .function _ embedded => numbered .embedded .query embedded
  | .other embedded => numbered .embedded .query embedded

/-- What stands right inside a part, with the steps there. -/
def Part.inside : Part → List (Step × Part)
  | .statement s => s.inside
  | .query q => q.inside
  | .body b => b.inside
  | .item role i => i.inside role
  | .name _ _ => []

/-- The names that a part makes visible behind a step. In a recursive `WITH` list every
name is visible everywhere in the query; otherwise an entry sees the names before it, and
the body and what trails it see all. -/
def Part.visible : Part → Step → List String
  | .query q, .cte i => if q.recursive then q.ctes.map Cte.name else (q.ctes.take i).map Cte.name
  | .query q, _ => q.ctes.map Cte.name
  | _, _ => []

/-- `Leads p path names q`: the path takes one from `p` to `q`, where the names are visible
that `WITH` lists on the path bind. -/
inductive Leads : Part → Path → List String → Part → Prop
  | here (p : Part) : Leads p [] [] p
  | step {p q r : Part} {step : Step} {path : Path} {names : List String}
      (into : (step, q) ∈ p.inside) (rest : Leads q path names r) :
      Leads p (step :: path) (p.visible step ++ names) r

theorem Leads.append {p q r : Part} {path path' : Path} {names names' : List String}
    (h : Leads p path names q) (h' : Leads q path' names' r) :
    Leads p (path ++ path') (names ++ names') r := by
  induction h with
  | here => exact h'
  | step into _ ih =>
    rw [List.cons_append, List.append_assoc]
    exact .step into (ih h')

/-- Somewhere in a part, or as the part itself, stands one with a property. -/
def Part.Has (p : Part) (P : Part → Prop) : Prop := ∃ path names c, Leads p path names c ∧ P c

theorem has_inside {p : Part} {P : Part → Prop} :
    p.Has P ↔ P p ∨ ∃ c ∈ p.inside, c.2.Has P := by
  constructor
  · intro found
    obtain ⟨path, names, c, h, hc⟩ := found
    cases h with
    | here => exact .inl hc
    | step into rest => exact .inr ⟨_, into, _, _, c, rest, hc⟩
  · intro found
    rcases found with hp | ⟨⟨step, q⟩, into, path, names, c, rest, hc⟩
    · exact ⟨[], [], p, .here p, hp⟩
    · exact ⟨_, _, c, .step into rest, hc⟩

/-! ### Lists of parts -/

section Numbered

variable {α : Type} {step : Nat → Step} {part : α → Part} {xs : List α}

@[simp] theorem numbered_nil : numbered step part [] = [] := rfl

theorem numbered_cons (x : α) :
    numbered step part (x :: xs) =
      (step 0, part x) :: numbered (fun i => step (i + 1)) part xs := by
  simp [numbered, List.mapIdx_cons]

theorem mem_numbered {s : Step} {p : Part} :
    (s, p) ∈ numbered step part xs ↔ ∃ k x, xs[k]? = some x ∧ step k = s ∧ part x = p := by
  simp only [numbered, List.mem_mapIdx, List.getElem?_eq_some_iff, Prod.mk.injEq]
  constructor
  · intro found
    obtain ⟨k, hk, hs, hp⟩ := found
    exact ⟨k, xs[k], ⟨hk, rfl⟩, hs, hp⟩
  · intro found
    obtain ⟨k, _, ⟨hk, rfl⟩, hs, hp⟩ := found
    exact ⟨k, hk, hs, hp⟩

theorem exists_numbered {P : Part → Prop} :
    (∃ c ∈ numbered step part xs, P c.2) ↔ ∃ x ∈ xs, P (part x) := by
  constructor
  · intro listed
    obtain ⟨⟨s, p⟩, hc, hp⟩ := listed
    obtain ⟨k, x, hx, _, rfl⟩ := mem_numbered.mp hc
    exact ⟨x, List.mem_of_getElem? hx, hp⟩
  · intro listed
    obtain ⟨x, hx, hp⟩ := listed
    obtain ⟨k, hk⟩ := List.getElem?_of_mem hx
    exact ⟨(step k, part x), mem_numbered.mpr ⟨k, x, hk, rfl, rfl⟩, hp⟩

end Numbered

/-! ### One step -/

/-- One part stands right within another, behind a step. -/
inductive Within : Part → Step → Part → Prop
  | whole {q : Query} : Within (.statement (.query q)) .whole (.query q)
  | inserted {i : Insert} : Within (.statement (.insert i)) .named (.name .write i.table)
  | rows {i : Insert} {q : Query} (h : i.source = some q) :
      Within (.statement (.insert i)) .rows (.query q)
  | insertEmbedded {i : Insert} {k : Nat} {q : Query} (h : i.embedded[k]? = some q) :
      Within (.statement (.insert i)) (.embedded k) (.query q)
  | updateTarget {u : Update} {k : Nat} {i : Item} (h : u.target[k]? = some i) :
      Within (.statement (.update u)) (.target k) (.item .write i)
  | updateSource {u : Update} {k : Nat} {i : Item} (h : u.source[k]? = some i) :
      Within (.statement (.update u)) (.source k) (.item .read i)
  | updateEmbedded {u : Update} {k : Nat} {q : Query} (h : u.embedded[k]? = some q) :
      Within (.statement (.update u)) (.embedded k) (.query q)
  | deleteTarget {d : Delete} {k : Nat} {i : Item} (h : d.targets[k]? = some i) :
      Within (.statement (.delete d)) (.target k) (.item .write i)
  | deleteSource {d : Delete} {k : Nat} {i : Item} (h : d.source[k]? = some i) :
      Within (.statement (.delete d)) (.source k) (.item .read i)
  | deleteEmbedded {d : Delete} {k : Nat} {q : Query} (h : d.embedded[k]? = some q) :
      Within (.statement (.delete d)) (.embedded k) (.query q)
  | created {c : Creation} {n : String} (h : c.name = some n) :
      Within (.statement (.create c)) .named (.name .write n)
  | createEmbedded {c : Creation} {k : Nat} {q : Query} (h : c.queries[k]? = some q) :
      Within (.statement (.create c)) (.embedded k) (.query q)
  | cte {q : Query} {k : Nat} {c : Cte} (h : q.ctes[k]? = some c) :
      Within (.query q) (.cte k) (.query c.query)
  | body {q : Query} : Within (.query q) .body (.body q.body)
  | trailing {q : Query} {k : Nat} {r : Query} (h : q.trailing[k]? = some r) :
      Within (.query q) (.trailing k) (.query r)
  | into {s : Select} {n : String} (h : s.into = some n) :
      Within (.body (.select s)) .named (.name .write n)
  | selectSource {s : Select} {k : Nat} {i : Item} (h : s.source[k]? = some i) :
      Within (.body (.select s)) (.source k) (.item .read i)
  | selectEmbedded {s : Select} {k : Nat} {q : Query} (h : s.embedded[k]? = some q) :
      Within (.body (.select s)) (.embedded k) (.query q)
  | left {op : String} {l r : Body} : Within (.body (.setOperation op l r)) .left (.body l)
  | right {op : String} {l r : Body} : Within (.body (.setOperation op l r)) .right (.body r)
  | nested {q : Query} : Within (.body (.nested q)) .nested (.query q)
  | values {qs : List Query} {k : Nat} {q : Query} (h : qs[k]? = some q) :
      Within (.body (.values qs)) (.embedded k) (.query q)
  | wholeTable {n : String} : Within (.body (.table n)) .named (.name .read n)
  | change {s : Statement} : Within (.body (.modify s)) .change (.statement s)
  | table {role : Role} {n : String} : Within (.item role (.table n)) .named (.name role n)
  | derived {role : Role} {q : Query} {label : Option String} :
      Within (.item role (.subquery q label)) .derived (.query q)
  | function {role : Role} {n : String} {qs : List Query} {k : Nat} {q : Query}
      (h : qs[k]? = some q) : Within (.item role (.function n qs)) (.embedded k) (.query q)
  | other {role : Role} {qs : List Query} {k : Nat} {q : Query} (h : qs[k]? = some q) :
      Within (.item role (.other qs)) (.embedded k) (.query q)

theorem Statement.within_of_mem {s : Statement} {step : Step} {p : Part}
    (h : (step, p) ∈ s.inside) : Within (.statement s) step p := by
  cases s with
  | query q =>
    cases List.mem_singleton.mp h
    exact .whole
  | insert i =>
    obtain ⟨table, source, embedded⟩ := i
    rcases List.mem_append.mp h with h | h
    · rcases List.mem_cons.mp h with h | h
      · cases h
        exact .inserted
      · obtain ⟨q, hq, he⟩ := List.mem_map.mp h
        cases he
        exact .rows (Option.mem_toList.mp hq)
    · obtain ⟨k, q, hk, rfl, rfl⟩ := mem_numbered.mp h
      exact .insertEmbedded hk
  | update u =>
    obtain ⟨target, source, embedded⟩ := u
    rcases List.mem_append.mp h with h | h
    · rcases List.mem_append.mp h with h | h
      · obtain ⟨k, i, hk, rfl, rfl⟩ := mem_numbered.mp h
        exact .updateTarget hk
      · obtain ⟨k, i, hk, rfl, rfl⟩ := mem_numbered.mp h
        exact .updateSource hk
    · obtain ⟨k, q, hk, rfl, rfl⟩ := mem_numbered.mp h
      exact .updateEmbedded hk
  | delete d =>
    obtain ⟨targets, source, embedded⟩ := d
    rcases List.mem_append.mp h with h | h
    · rcases List.mem_append.mp h with h | h
      · obtain ⟨k, i, hk, rfl, rfl⟩ := mem_numbered.mp h
        exact .deleteTarget hk
      · obtain ⟨k, i, hk, rfl, rfl⟩ := mem_numbered.mp h
        exact .deleteSource hk
    · obtain ⟨k, q, hk, rfl, rfl⟩ := mem_numbered.mp h
      exact .deleteEmbedded hk
  | create c =>
    obtain ⟨kind, name, queries⟩ := c
    rcases List.mem_append.mp h with h | h
    · obtain ⟨n, hn, he⟩ := List.mem_map.mp h
      cases he
      exact .created (Option.mem_toList.mp hn)
    · obtain ⟨k, q, hk, rfl, rfl⟩ := mem_numbered.mp h
      exact .createEmbedded hk
  | drop _ => cases h
  | alter _ => cases h
  | other _ => cases h

theorem Query.within_of_mem {q : Query} {step : Step} {p : Part} (h : (step, p) ∈ q.inside) :
    Within (.query q) step p := by
  obtain ⟨ctes, recursive, body, trailing⟩ := q
  rcases List.mem_append.mp h with h | h
  · obtain ⟨k, c, hk, rfl, rfl⟩ := mem_numbered.mp h
    exact .cte hk
  · rcases List.mem_cons.mp h with h | h
    · cases h
      exact .body
    · obtain ⟨k, r, hk, rfl, rfl⟩ := mem_numbered.mp h
      exact .trailing hk

theorem Body.within_of_mem {b : Body} {step : Step} {p : Part} (h : (step, p) ∈ b.inside) :
    Within (.body b) step p := by
  cases b with
  | select s =>
    obtain ⟨source, embedded, into⟩ := s
    rcases List.mem_append.mp h with h | h
    · rcases List.mem_append.mp h with h | h
      · obtain ⟨n, hn, he⟩ := List.mem_map.mp h
        cases he
        exact .into (Option.mem_toList.mp hn)
      · obtain ⟨k, i, hk, rfl, rfl⟩ := mem_numbered.mp h
        exact .selectSource hk
    · obtain ⟨k, q, hk, rfl, rfl⟩ := mem_numbered.mp h
      exact .selectEmbedded hk
  | setOperation op l r =>
    rcases List.mem_cons.mp h with h | h
    · cases h
      exact .left
    · cases List.mem_singleton.mp h
      exact .right
  | nested q =>
    cases List.mem_singleton.mp h
    exact .nested
  | values qs =>
    obtain ⟨k, q, hk, rfl, rfl⟩ := mem_numbered.mp h
    exact .values hk
  | table n =>
    cases List.mem_singleton.mp h
    exact .wholeTable
  | modify s =>
    cases List.mem_singleton.mp h
    exact .change

theorem Item.within_of_mem {role : Role} {i : Item} {step : Step} {p : Part}
    (h : (step, p) ∈ i.inside role) : Within (.item role i) step p := by
  cases i with
  | table n =>
    cases List.mem_singleton.mp h
    exact .table
  | subquery q label =>
    cases List.mem_singleton.mp h
    exact .derived
  | function n qs =>
    obtain ⟨k, q, hk, rfl, rfl⟩ := mem_numbered.mp h
    exact .function hk
  | other qs =>
    obtain ⟨k, q, hk, rfl, rfl⟩ := mem_numbered.mp h
    exact .other hk

/-- What stands inside a part stands there in one of these ways. -/
theorem Part.within_of_mem {p q : Part} {step : Step} (h : (step, q) ∈ p.inside) :
    Within p step q := by
  cases p with
  | statement s => exact s.within_of_mem h
  | query q => exact q.within_of_mem h
  | body b => exact b.within_of_mem h
  | item role i => exact i.within_of_mem h
  | name _ _ => cases h

/-! ### Induction over parts -/

/-- The size of a part; what stands inside is smaller. -/
noncomputable def Part.size : Part → Nat
  | .statement s => sizeOf s
  | .query q => sizeOf q
  | .body b => sizeOf b
  | .item _ i => sizeOf i
  | .name _ _ => 0

theorem sizeOf_lt_of_getElem? {α : Type} [SizeOf α] {xs : List α} {k : Nat} {x : α}
    (h : xs[k]? = some x) : sizeOf x < sizeOf xs :=
  List.sizeOf_lt_of_mem (List.mem_of_getElem? h)

theorem Insert.sizeOf_eq (i : Insert) :
    sizeOf i = 1 + sizeOf i.table + sizeOf i.source + sizeOf i.embedded := by
  cases i
  rw [Insert.mk.sizeOf_spec]

theorem Update.sizeOf_eq (u : Update) :
    sizeOf u = 1 + sizeOf u.target + sizeOf u.source + sizeOf u.embedded := by
  cases u
  rw [Update.mk.sizeOf_spec]

theorem Delete.sizeOf_eq (d : Delete) :
    sizeOf d = 1 + sizeOf d.targets + sizeOf d.source + sizeOf d.embedded := by
  cases d
  rw [Delete.mk.sizeOf_spec]

theorem Creation.sizeOf_eq (c : Creation) :
    sizeOf c = 1 + sizeOf c.kind + sizeOf c.name + sizeOf c.queries := by
  cases c
  rw [Creation.mk.sizeOf_spec]

theorem Query.sizeOf_eq (q : Query) :
    sizeOf q = 1 + sizeOf q.ctes + sizeOf q.recursive + sizeOf q.body + sizeOf q.trailing := by
  cases q
  rw [Query.mk.sizeOf_spec]

theorem Cte.sizeOf_eq (c : Cte) : sizeOf c = 1 + sizeOf c.name + sizeOf c.query := by
  cases c
  rw [Cte.mk.sizeOf_spec]

theorem Select.sizeOf_eq (s : Select) :
    sizeOf s = 1 + sizeOf s.source + sizeOf s.embedded + sizeOf s.into := by
  cases s
  rw [Select.mk.sizeOf_spec]

/-- What stands within a part is smaller than it. -/
theorem Within.size_lt {p q : Part} {step : Step} (h : Within p step q) : q.size < p.size := by
  cases h <;>
    simp only [Part.size, Statement.query.sizeOf_spec, Statement.insert.sizeOf_spec,
      Statement.update.sizeOf_spec, Statement.delete.sizeOf_spec, Statement.create.sizeOf_spec,
      Body.select.sizeOf_spec, Body.setOperation.sizeOf_spec, Body.nested.sizeOf_spec,
      Body.values.sizeOf_spec, Body.table.sizeOf_spec, Body.modify.sizeOf_spec,
      Item.table.sizeOf_spec, Item.subquery.sizeOf_spec, Item.function.sizeOf_spec,
      Item.other.sizeOf_spec, Insert.sizeOf_eq, Update.sizeOf_eq, Delete.sizeOf_eq,
      Creation.sizeOf_eq, Select.sizeOf_eq]
  case cte q k c h =>
    have := sizeOf_lt_of_getElem? h
    rw [Cte.sizeOf_eq] at this
    rw [Query.sizeOf_eq q]
    omega
  case body q =>
    rw [Query.sizeOf_eq q]
    omega
  case trailing q k r h =>
    have := sizeOf_lt_of_getElem? h
    rw [Query.sizeOf_eq q]
    omega
  case rows h =>
    rw [h, Option.some.sizeOf_spec]
    omega
  all_goals first
    | omega
    | have := sizeOf_lt_of_getElem? ‹_›
      omega

/-- Induction from what stands inside a part to the part. -/
theorem Part.inductionInside {motive : Part → Prop}
    (h : ∀ p : Part, (∀ c ∈ p.inside, motive c.2) → motive p) (p : Part) : motive p :=
  h p fun c _ => Part.inductionInside h c.2
termination_by p.size
decreasing_by exact (Part.within_of_mem ‹_›).size_lt

end QueryGateway.Tree
