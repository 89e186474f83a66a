import QueryGateway.Proofs.Tree.Part

/-! The sections of a statement, by its parts.

A statement has a section if some part anywhere in it brings that section
(`mem_sections`). -/
namespace QueryGateway.Tree

/-- The sections that a part brings itself, apart from what stands in it. -/
def Part.own : Part → List Section
  | .statement (.insert _) => [.insert]
  | .statement (.update u) => .update :: sourceSection u.source
  | .statement (.delete _) => [.delete, .source]
  | .statement (.create c) => c.kind.sections
  | .statement (.drop _) => [.drop]
  | .statement (.alter _) => [.alter]
  | .statement (.query _) | .statement (.other _) => []
  | .body (.select s) => .select :: sourceSection s.source
  | .body (.setOperation ..) => [.union]
  | .body (.table _) => [.select, .source]
  | .body (.nested _) | .body (.values _) | .body (.modify _) => []
  | .query _ | .item _ _ | .name _ _ => []

/-- The sections met in a part. -/
def Part.met : Part → List Section
  | .statement s => s.met
  | .query q => q.met
  | .body b => b.met
  | .item _ i => i.met
  | .name _ _ => []

section Lists

variable {sec : Section}

theorem mem_queriesMet (step : Nat → Step) {qs : List Query} :
    sec ∈ queriesMet qs ↔ ∃ c ∈ numbered step .query qs, sec ∈ c.2.met := by
  rw [exists_numbered (P := fun p => sec ∈ p.met)]
  induction qs with
  | nil => simp [queriesMet]
  | cons q rest ih => simp [queriesMet, ih, Part.met]

theorem mem_itemsMet (step : Nat → Step) (role : Role) {items : List Item} :
    sec ∈ itemsMet items ↔ ∃ c ∈ numbered step (.item role) items, sec ∈ c.2.met := by
  rw [exists_numbered (P := fun p => sec ∈ p.met)]
  induction items with
  | nil => simp [itemsMet]
  | cons i rest ih => simp [itemsMet, ih, Part.met]

theorem mem_ctesMet (step : Nat → Step) {ctes : List Cte} :
    sec ∈ ctesMet ctes ↔ ∃ c ∈ numbered step (fun c => .query c.query) ctes, sec ∈ c.2.met := by
  rw [exists_numbered (P := fun p => sec ∈ p.met)]
  induction ctes with
  | nil => simp [ctesMet]
  | cons c rest ih =>
    obtain ⟨name, q⟩ := c
    simp [ctesMet, ih, Part.met]

end Lists

theorem Statement.mem_met_inside (s : Statement) (sec : Section) :
    sec ∈ s.met ↔ sec ∈ (Part.statement s).own ∨ ∃ c ∈ s.inside, sec ∈ c.2.met := by
  cases s with
  | query q => simp [Statement.met, Statement.inside, Part.own, Part.met]
  | insert i =>
    obtain ⟨table, source, embedded⟩ := i
    cases source <;> simp [Statement.met, Statement.inside, Part.own, optionMet, Part.met,
      or_and_right, exists_or, mem_queriesMet .embedded]
  | update u =>
    obtain ⟨target, source, embedded⟩ := u
    simp only [Statement.met, Statement.inside, Part.own, List.mem_cons, List.mem_append,
      or_and_right, exists_or, ← mem_itemsMet, ← mem_queriesMet]
    grind
  | delete d =>
    obtain ⟨targets, source, embedded⟩ := d
    simp only [Statement.met, Statement.inside, Part.own, List.mem_cons, List.mem_append,
      or_and_right, exists_or, ← mem_itemsMet, ← mem_queriesMet, List.not_mem_nil]
    grind
  | create c =>
    obtain ⟨kind, name, queries⟩ := c
    cases name <;> simp [Statement.met, Statement.inside, Part.own, Part.met, or_and_right,
      exists_or, mem_queriesMet .embedded]
  | drop _ => simp [Statement.met, Statement.inside, Part.own]
  | alter _ => simp [Statement.met, Statement.inside, Part.own]
  | other _ => simp [Statement.met, Statement.inside, Part.own]

theorem Query.mem_met_inside (q : Query) (sec : Section) :
    sec ∈ q.met ↔ ∃ c ∈ q.inside, sec ∈ c.2.met := by
  obtain ⟨ctes, recursive, body, trailing⟩ := q
  simp only [Query.met, Query.inside, List.mem_cons, List.mem_append, or_and_right, exists_or,
    exists_eq_left, ← mem_ctesMet, ← mem_queriesMet, or_assoc]
  rfl

theorem Body.mem_met_inside (b : Body) (sec : Section) :
    sec ∈ b.met ↔ sec ∈ (Part.body b).own ∨ ∃ c ∈ b.inside, sec ∈ c.2.met := by
  cases b with
  | select s =>
    obtain ⟨source, embedded, into⟩ := s
    cases into <;> simp [Body.met, Body.inside, Part.own, Part.met, or_and_right, exists_or,
      or_assoc, mem_itemsMet .source .read, mem_queriesMet .embedded]
  | setOperation op left right => simp [Body.met, Body.inside, Part.own, Part.met]
  | nested q => simp [Body.met, Body.inside, Part.own, Part.met]
  | values embedded => simp [Body.met, Body.inside, Part.own, mem_queriesMet .embedded]
  | table name => simp [Body.met, Body.inside, Part.own, Part.met]
  | modify s => simp [Body.met, Body.inside, Part.own, Part.met]

theorem Item.mem_met_inside (role : Role) (i : Item) (sec : Section) :
    sec ∈ i.met ↔ ∃ c ∈ i.inside role, sec ∈ c.2.met := by
  cases i with
  | table name => simp [Item.met, Item.inside, Part.met]
  | subquery q _ => simp [Item.met, Item.inside, Part.met]
  | function _ embedded => rw [Item.met, Item.inside, mem_queriesMet]
  | other embedded => rw [Item.met, Item.inside, mem_queriesMet]

/-- What is met in a part is its own or met inside it. -/
theorem Part.mem_met_inside (p : Part) (sec : Section) :
    sec ∈ p.met ↔ sec ∈ p.own ∨ ∃ c ∈ p.inside, sec ∈ c.2.met := by
  cases p with
  | statement s => exact s.mem_met_inside sec
  | query q => exact (q.mem_met_inside sec).trans (or_iff_right List.not_mem_nil).symm
  | body b => exact b.mem_met_inside sec
  | item role i => exact (i.mem_met_inside role sec).trans (or_iff_right List.not_mem_nil).symm
  | name _ _ => simp [Part.met, Part.own, Part.inside]

theorem Part.mem_met (p : Part) (sec : Section) : sec ∈ p.met ↔ p.Has fun c => sec ∈ c.own := by
  induction p using Part.inductionInside with
  | h p ih =>
    have inside : (∃ c ∈ p.inside, sec ∈ c.2.met) ↔
        ∃ c ∈ p.inside, c.2.Has fun c => sec ∈ c.own :=
      exists_congr fun c => and_congr_right (ih c)
    rw [p.mem_met_inside, has_inside, inside]

theorem Statement.mem_sections (s : Statement) (sec : Section) :
    sec ∈ s.sections ↔ (Part.statement s).Has fun c => sec ∈ c.own := by
  rw [← Part.mem_met]
  cases sec <;> simp [Statement.sections, Section.all, Part.met]

end QueryGateway.Tree
