import QueryGateway.Proofs.Tree.Part

/-! The order of the walk through a statement.

The walk takes the steps out of a part in a fixed order, clause by clause, and so it comes
to paths in an order: `Precedes` compares two of them where they part. What stands inside a
part is listed in this order (`Part.inside_ordered`). -/
namespace QueryGateway.Tree

/-! ### Steps and paths -/

/-- The clause that a step enters, by its place in the walk. -/
def Step.clause : Step → Nat
  | .named => 0
  | .cte _ => 1
  | .body => 2
  | .target _ => 3
  | .source _ => 4
  | .rows => 5
  | .left => 6
  | .right => 7
  | .embedded _ => 8
  | .trailing _ => 9
  | .whole => 10
  | .nested => 11
  | .derived => 12
  | .change => 13

/-- The number of a step within its clause. -/
def Step.index : Step → Nat
  | .cte i | .target i | .source i | .embedded i | .trailing i => i
  | .named | .body | .rows | .left | .right | .whole | .nested | .derived | .change => 0

/-- Whether the walk takes one step before another: by clause, within a clause by number. -/
def Step.Before (a b : Step) : Prop :=
  a.clause < b.clause ∨ a.clause = b.clause ∧ a.index < b.index

/-- Whether the walk comes to the end of one path first: where the two part, its step
comes before the other's. -/
def Precedes (p q : Path) : Prop :=
  ∃ common a b p' q', p = common ++ a :: p' ∧ q = common ++ b :: q' ∧ a.Before b

theorem Step.Before.precedes {a b : Step} (h : a.Before b) (p q : Path) :
    Precedes (a :: p) (b :: q) :=
  ⟨[], a, b, p, q, rfl, rfl, h⟩

theorem Step.not_before (s : Step) : ¬ s.Before s := by
  intro before
  rcases before with before | before <;> omega

theorem Precedes.cons {p q : Path} (h : Precedes p q) (s : Step) :
    Precedes (s :: p) (s :: q) := by
  obtain ⟨common, a, b, p', q', rfl, rfl, hab⟩ := h
  exact ⟨s :: common, a, b, p', q', rfl, rfl, hab⟩

/-! ### What stands inside a part -/

/-- Parts in the order of the walk, with steps into clauses from `lo` to `hi`. -/
structure Spans (lo hi : Nat) (cs : List (Step × Part)) : Prop where
  ordered : cs.Pairwise fun a b => a.1.Before b.1
  within : ∀ c ∈ cs, lo ≤ c.1.clause ∧ c.1.clause ≤ hi

theorem Spans.append {lo mid mid' hi : Nat} {cs ds : List (Step × Part)} (hc : Spans lo mid cs)
    (hd : Spans mid' hi ds) (h : lo ≤ mid ∧ mid < mid' ∧ mid' ≤ hi) : Spans lo hi (cs ++ ds) := by
  constructor
  · refine List.pairwise_append.mpr ⟨hc.ordered, hd.ordered, fun c hcs d hds => .inl ?_⟩
    have := hc.within c hcs
    have := hd.within d hds
    omega
  · intro c hcs
    rcases List.mem_append.mp hcs with hcs | hcs
    · have := hc.within c hcs
      omega
    · have := hd.within c hcs
      omega

theorem spans_single (step : Step) (part : Part) :
    Spans step.clause step.clause [(step, part)] :=
  ⟨List.pairwise_singleton .., by simp⟩

theorem spans_option {α : Type} (step : Step) (part : α → Part) (o : Option α) :
    Spans step.clause step.clause (o.toList.map fun x => (step, part x)) := by
  cases o with
  | none => exact ⟨.nil, by simp⟩
  | some x => exact spans_single step (part x)

theorem spans_numbered {α : Type} (k : Nat) (step : Nat → Step) (part : α → Part) (xs : List α)
    (hc : ∀ i, (step i).clause = k) (hi : ∀ i, (step i).index = i) :
    Spans k k (numbered step part xs) := by
  constructor
  · rw [List.pairwise_iff_getElem]
    intro i j hi' hj' hij
    simp only [numbered, List.getElem_mapIdx]
    exact .inr ⟨(hc i).trans (hc j).symm, by rw [hi, hi]; exact hij⟩
  · intro member hcs
    obtain ⟨s, p⟩ := member
    obtain ⟨i, _, _, rfl, _⟩ := mem_numbered.mp hcs
    simp [hc i]

theorem spans_embedded (qs : List Query) : Spans 8 8 (numbered .embedded .query qs) :=
  spans_numbered 8 .embedded .query qs (fun _ => rfl) fun _ => rfl

theorem spans_source (source : List Item) : Spans 4 4 (numbered .source (.item .read) source) :=
  spans_numbered 4 .source _ source (fun _ => rfl) fun _ => rfl

theorem spans_items (target source : List Item) :
    Spans 3 4 (numbered .target (.item .write) target ++ numbered .source (.item .read) source) :=
  (spans_numbered 3 .target _ target (fun _ => rfl) fun _ => rfl).append (spans_source source)
    (by decide)

theorem Statement.inside_ordered (s : Statement) :
    s.inside.Pairwise fun a b => a.1.Before b.1 := by
  cases s with
  | query q => exact (spans_single .whole (.query q)).ordered
  | insert i =>
    obtain ⟨table, source, embedded⟩ := i
    have target : Spans 0 5 (_ :: _) := (spans_single .named (.name .write table)).append
      (spans_option .rows .query source) (by decide)
    exact (target.append (spans_embedded embedded) (by decide)).ordered
  | update u =>
    obtain ⟨target, source, embedded⟩ := u
    exact ((spans_items target source).append (spans_embedded embedded) (by decide)).ordered
  | delete d =>
    obtain ⟨targets, source, embedded⟩ := d
    exact ((spans_items targets source).append (spans_embedded embedded) (by decide)).ordered
  | create c =>
    obtain ⟨_, name, queries⟩ := c
    exact ((spans_option .named (.name .write) name).append
      (spans_embedded queries) (by decide)).ordered
  | drop _ => exact .nil
  | alter _ => exact .nil
  | other _ => exact .nil

theorem Query.inside_ordered (q : Query) : q.inside.Pairwise fun a b => a.1.Before b.1 := by
  obtain ⟨ctes, _, body, trailing⟩ := q
  have named : Spans 1 1 (numbered .cte (fun c => .query c.query) ctes) :=
    spans_numbered 1 .cte _ ctes (fun _ => rfl) fun _ => rfl
  have behind : Spans 9 9 (numbered .trailing .query trailing) :=
    spans_numbered 9 .trailing _ trailing (fun _ => rfl) fun _ => rfl
  exact (named.append ((spans_single .body (.body body)).append behind (by decide))
    (by decide)).ordered

theorem Body.inside_ordered (b : Body) : b.inside.Pairwise fun a b => a.1.Before b.1 := by
  cases b with
  | select s =>
    obtain ⟨source, embedded, into⟩ := s
    have reads : Spans 0 4 (_ ++ _) := (spans_option .named (.name .write) into).append
      (spans_source source) (by decide)
    exact (reads.append (spans_embedded embedded) (by decide)).ordered
  | setOperation _ left right =>
    exact ((spans_single .left (.body left)).append
      (spans_single .right (.body right)) (by decide)).ordered
  | nested q => exact (spans_single .nested (.query q)).ordered
  | values embedded => exact (spans_embedded embedded).ordered
  | table name => exact (spans_single .named (.name .read name)).ordered
  | modify s => exact (spans_single .change (.statement s)).ordered

theorem Item.inside_ordered (role : Role) (i : Item) :
    (i.inside role).Pairwise fun a b => a.1.Before b.1 := by
  cases i with
  | table name => exact (spans_single .named (.name role name)).ordered
  | subquery q _ => exact (spans_single .derived (.query q)).ordered
  | function _ embedded => exact (spans_embedded embedded).ordered
  | other embedded => exact (spans_embedded embedded).ordered

/-- What stands inside a part is listed in the order of the walk. -/
theorem Part.inside_ordered (p : Part) : p.inside.Pairwise fun a b => a.1.Before b.1 := by
  cases p with
  | statement s => exact s.inside_ordered
  | query q => exact q.inside_ordered
  | body b => exact b.inside_ordered
  | item role i => exact i.inside_ordered role
  | name _ _ => exact .nil

/-- One step leads to one part. -/
theorem Part.eq_of_mem_inside {p q q' : Part} {step : Step} (h : (step, q) ∈ p.inside)
    (h' : (step, q') ∈ p.inside) : q = q' := by
  obtain ⟨i, hi, hq⟩ := List.getElem_of_mem h
  obtain ⟨j, hj, hq'⟩ := List.getElem_of_mem h'
  have apart {a b : Nat} (ha : a < p.inside.length) (hb : b < p.inside.length) (lt : a < b) :
      (p.inside[a]).1.Before (p.inside[b]).1 :=
    List.pairwise_iff_getElem.mp p.inside_ordered a b ha hb lt
  rcases Nat.lt_trichotomy i j with lt | same | lt
  · have before := apart hi hj lt
    rw [hq, hq'] at before
    exact absurd before step.not_before
  · subst same
    exact (Prod.mk.inj (hq.symm.trans hq')).2
  · have before := apart hj hi lt
    rw [hq, hq'] at before
    exact absurd before step.not_before

/-- A path leads to one part, and past the same `WITH` lists. -/
theorem Leads.unique {p q q' : Part} {path : Path} {names names' : List String}
    (h : Leads p path names q) (h' : Leads p path names' q') : names = names' ∧ q = q' := by
  induction h generalizing names' with
  | here =>
    cases h'
    exact ⟨rfl, rfl⟩
  | step into _ ih =>
    cases h' with
    | step into' rest' =>
      obtain rfl := Part.eq_of_mem_inside into into'
      obtain ⟨rfl, rfl⟩ := ih rest'
      exact ⟨rfl, rfl⟩

end QueryGateway.Tree
