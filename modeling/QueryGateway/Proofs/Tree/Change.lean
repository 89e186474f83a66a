import QueryGateway.Proofs.Tree.Section

/-! Changes that stand in a statement, and those that its classification overlooks.

`Query.modifies` looks for changes in named queries and bodies, `Query.createdTable` for a
table to be created in the bodies alone. A change anywhere else is not seen: the path to it
is `overlooked`, or `strays` from the bodies (`Leads.overlooked`, `Leads.strays`). -/
namespace QueryGateway.Tree

/-! ### Changes -/

/-- Whether a part inserts, updates or deletes. -/
def Part.changesData : Part → Bool
  | .statement (.insert _) | .statement (.update _) | .statement (.delete _) => true
  | _ => false

/-- Whether a part is a statement that creates something with a name. -/
def Part.creates : Part → Bool
  | .statement (.create c) => c.name.isSome
  | _ => false

/-- Whether a part is a select that creates a table. -/
def Part.selectsInto : Part → Bool
  | .body (.select s) => s.into.isSome
  | _ => false

/-- Whether a part changes the database. -/
def Part.changes (p : Part) : Prop :=
  p.changesData = true ∨ p.creates = true ∨ p.selectsInto = true

/-- The sections of changes of data. -/
def Section.changesData : Section → Bool
  | .insert | .update | .delete => true
  | _ => false

theorem changesData_iff_own (p : Part) :
    p.changesData = true ↔ ∃ sec ∈ p.own, sec.changesData = true := by
  have source (items : List Item) : ¬ ∃ sec ∈ sourceSection items, sec.changesData = true := by
    unfold sourceSection
    split <;> simp [Section.changesData]
  cases p with
  | statement s =>
    cases s with
    | create c =>
      obtain ⟨kind, _, _⟩ := c
      cases kind <;>
        simp [Part.changesData, Part.own, CreatedKind.sections, Section.changesData]
    | _ => simp [Part.changesData, Part.own, Section.changesData]
  | body b =>
    cases b with
    | select s =>
      refine iff_of_false Bool.false_ne_true ?_
      intro listed
      obtain ⟨sec, hsec, hd⟩ := listed
      rcases List.mem_cons.mp hsec with rfl | hsec
      · cases hd
      · exact source s.source ⟨sec, hsec, hd⟩
    | _ => simp [Part.changesData, Part.own, Section.changesData]
  | query _ => simp [Part.changesData, Part.own]
  | item _ _ => simp [Part.changesData, Part.own]
  | name _ _ => simp [Part.changesData, Part.own]

/-- A name is written by a change, or as an item that is changed. -/
theorem Within.changes_of_written {p : Part} {step : Step} {n : String}
    (h : Within p step (.name .write n)) : p.changes ∨ ∃ i, p = .item .write i := by
  cases h with
  | inserted => exact .inl (.inl rfl)
  | created h => exact .inl (.inr (.inl (Option.isSome_iff_exists.mpr ⟨n, h⟩)))
  | into h => exact .inl (.inr (.inr (Option.isSome_iff_exists.mpr ⟨n, h⟩)))
  | table => exact .inr ⟨_, rfl⟩

/-- Items are changed by changes of data alone. -/
theorem Within.changesData_of_target {p : Part} {step : Step} {i : Item}
    (h : Within p step (.item .write i)) : p.changesData = true := by
  cases h with
  | updateTarget _ => rfl
  | deleteTarget _ => rfl

theorem Leads.has_change {p q : Part} {path : Path} {names : List String}
    (h : Leads p path names q) {n : String} (hq : q = .name .write n) :
    p.Has Part.changes ∨ p = .name .write n ∨ ∃ i, p = .item .write i := by
  induction h with
  | here p => exact .inr (.inl hq)
  | @step p q _ step _ _ into _ ih =>
    have within := Part.within_of_mem into
    rcases ih hq with h | rfl | ⟨i, rfl⟩
    · exact .inl (has_inside.mpr (.inr ⟨_, into, h⟩))
    · rcases within.changes_of_written with h | h
      · exact .inl (has_inside.mpr (.inl h))
      · exact .inr (.inr h)
    · have changes : p.changes := .inl within.changesData_of_target
      exact .inl (has_inside.mpr (.inl changes))

/-- Whoever creates names what is created. -/
theorem exists_written {p : Part} (h : p.creates = true ∨ p.selectsInto = true) :
    ∃ n, (Step.named, Part.name .write n) ∈ p.inside := by
  have there {o : Option String} (ho : o.isSome = true) :
      ∃ n, (Step.named, Part.name .write n) ∈ o.toList.map fun n => (.named, .name .write n) := by
    obtain ⟨n, hn⟩ := Option.isSome_iff_exists.mp ho
    exact ⟨n, List.mem_map.mpr ⟨n, Option.mem_toList.mpr hn, rfl⟩⟩
  rcases h with h | h
  · cases p with
    | statement s =>
      cases s with
      | create c =>
        obtain ⟨_, name, _⟩ := c
        obtain ⟨n, hn⟩ := there h
        exact ⟨n, List.mem_append_left _ hn⟩
      | _ => cases h
    | _ => cases h
  · cases p with
    | body b =>
      cases b with
      | select s =>
        obtain ⟨_, _, into⟩ := s
        obtain ⟨n, hn⟩ := there h
        exact ⟨n, List.mem_append_left _ (List.mem_append_left _ hn)⟩
      | _ => cases h
    | _ => cases h

/-- A statement changes the database somewhere if and only if it writes a relation or has a
section of changes of data. -/
theorem has_change_iff (s : Statement) :
    (Part.statement s).Has Part.changes ↔
      (∃ path names n, Leads (.statement s) path names (.name .write n)) ∨
      ∃ sec ∈ s.sections, sec.changesData = true := by
  constructor
  · intro change
    rcases change with ⟨path, names, c, leads, hd | hc⟩
    · obtain ⟨sec, hsec, hd⟩ := (changesData_iff_own c).mp hd
      exact .inr ⟨sec, (s.mem_sections sec).mpr ⟨path, names, c, leads, hsec⟩, hd⟩
    · obtain ⟨n, hn⟩ := exists_written hc
      exact .inl ⟨_, _, n, leads.append (.step hn (.here _))⟩
  · intro found
    rcases found with ⟨path, names, n, leads⟩ | ⟨sec, hsec, hd⟩
    · rcases leads.has_change rfl with h | h | ⟨i, h⟩
      · exact h
      · cases h
      · cases h
    · obtain ⟨path, names, c, leads, hown⟩ := (s.mem_sections sec).mp hsec
      exact ⟨path, names, c, leads, .inl ((changesData_iff_own c).mpr ⟨sec, hown, hd⟩)⟩

/-! ### What classification overlooks -/

/-- Whether the search for changes goes on behind a step. -/
def Step.followed : Step → Bool
  | .whole | .cte _ | .body | .left | .right | .nested => true
  | _ => false

/-- Whether the search for a table to be created goes on behind a step. -/
def Step.leading : Step → Bool
  | .whole | .body | .left | .right | .nested => true
  | _ => false

/-- Whether a path leaves the search for changes before it comes to one. -/
def overlooked : Path → Bool
  | [] => false
  | .change :: _ => false
  | step :: rest => !step.followed || overlooked rest

/-- Whether a path leaves the search for a table to be created. -/
def strays (path : Path) : Bool := path.any fun step => !step.leading

/-- Whether the search for changes finds one in a part. -/
def Part.modifies : Part → Bool
  | .statement (.query q) | .query q => q.modifies
  | .body b => b.modifies
  | _ => false

/-- The table to be created that the search for one finds in a part. -/
def Part.createdTable : Part → Option String
  | .statement (.query q) | .query q => q.createdTable
  | .body b => b.createdTable
  | _ => none

theorem anyCteModifies_eq (ctes : List Cte) :
    anyCteModifies ctes = ctes.any fun c => c.query.modifies := by
  induction ctes with
  | nil => simp [anyCteModifies]
  | cons c rest ih =>
    obtain ⟨name, q⟩ := c
    rw [anyCteModifies, ih, List.any_cons]

theorem Query.not_modifies {q : Query} (h : q.modifies = false) :
    (∀ c ∈ q.ctes, c.query.modifies = false) ∧ q.body.modifies = false := by
  obtain ⟨ctes, recursive, body, trailing⟩ := q
  rw [Query.modifies, anyCteModifies_eq, Bool.or_eq_false_iff, List.any_eq_false] at h
  exact ⟨fun c hc => Bool.eq_false_iff.mpr (h.1 c hc), h.2⟩

/-- A part in which the search finds no change is none itself and holds none where the
search goes on. -/
theorem Within.not_modifies {p q : Part} {step : Step} (h : Within p step q)
    (hp : p.modifies = false) : step ≠ .change ∧ (step.followed = true → q.modifies = false) := by
  cases h with
  | whole => exact ⟨by simp, fun _ => hp⟩
  | cte h => exact ⟨by simp, fun _ => (Query.not_modifies hp).1 _ (List.mem_of_getElem? h)⟩
  | body => exact ⟨by simp, fun _ => (Query.not_modifies hp).2⟩
  | left =>
    rw [Part.modifies, Body.modifies, Bool.or_eq_false_iff] at hp
    exact ⟨by simp, fun _ => hp.1⟩
  | right =>
    rw [Part.modifies, Body.modifies, Bool.or_eq_false_iff] at hp
    exact ⟨by simp, fun _ => hp.2⟩
  | nested =>
    rw [Part.modifies, Body.modifies] at hp
    exact ⟨by simp, fun _ => hp⟩
  | change =>
    rw [Part.modifies, Body.modifies] at hp
    cases hp
  | _ => simp [Step.followed]

theorem Within.createdTable_eq_none {p q : Part} {step : Step} (h : Within p step q)
    (hp : p.createdTable = none) (hs : step.leading = true) : q.createdTable = none := by
  cases h with
  | whole => exact hp
  | @body q =>
    obtain ⟨_, _, _, _⟩ := q
    rwa [Part.createdTable, Query.createdTable] at hp
  | left =>
    rw [Part.createdTable, Body.createdTable, Option.or_eq_none_iff] at hp
    exact hp.1
  | right =>
    rw [Part.createdTable, Body.createdTable, Option.or_eq_none_iff] at hp
    exact hp.2
  | nested => rwa [Part.createdTable, Body.createdTable] at hp
  | _ => cases hs

theorem Within.change_of_statement {p : Part} {step : Step} {s : Statement}
    (h : Within p step (.statement s)) : step = .change := by
  cases h
  rfl

/-- Below the root a statement stands behind a change. -/
theorem Leads.change_mem {p q : Part} {path : Path} {names : List String}
    (h : Leads p path names q) {s : Statement} (hq : q = .statement s) :
    path = [] ∧ p = .statement s ∨ .change ∈ path := by
  induction h with
  | here p => exact .inl ⟨rfl, hq⟩
  | step into _ ih =>
    rcases ih hq with ⟨rfl, rfl⟩ | h
    · have within := Part.within_of_mem into
      rw [within.change_of_statement]
      exact .inr (List.mem_cons_self ..)
    · exact .inr (List.mem_cons_of_mem _ h)

/-- Where the search finds no change, all changes are overlooked. -/
theorem Leads.overlooked {p q : Part} {path : Path} {names : List String}
    (h : Leads p path names q) (hp : p.modifies = false) (hc : .change ∈ path) :
    overlooked path = true := by
  induction h with
  | here p => cases hc
  | @step _ _ _ step rest _ into _ ih =>
    obtain ⟨hne, hnext⟩ := (Part.within_of_mem into).not_modifies hp
    have hrest : .change ∈ rest := (List.mem_cons.mp hc).resolve_left fun e => hne e.symm
    rw [Tree.overlooked]
    · cases hf : step.followed with
      | false => rfl
      | true => exact ih (hnext hf) hrest
    · exact hne

/-- Where no table to be created is found, all selects that create one stray. -/
theorem Leads.strays {p q : Part} {path : Path} {names : List String}
    (h : Leads p path names q) (hp : p.createdTable = none) (hq : q.selectsInto = true) :
    strays path = true := by
  induction h with
  | here p =>
    cases p with
    | body b =>
      cases b with
      | select s =>
        rw [Part.createdTable, Body.createdTable] at hp
        rw [Part.selectsInto, hp] at hq
        cases hq
      | _ => cases hq
    | _ => cases hq
  | @step _ _ _ step rest _ into _ ih =>
    have within := Part.within_of_mem into
    rw [Tree.strays, List.any_cons]
    cases hl : step.leading with
    | false => rfl
    | true => exact ih (within.createdTable_eq_none hp hl) hq

/-- Somewhere in a part, behind steps that lead, stands a select that creates a table. -/
def Part.SelectsIntoFirst (p : Part) : Prop :=
  ∃ path names c, Leads p path names c ∧ c.selectsInto = true ∧ Tree.strays path = false

theorem Part.SelectsIntoFirst.step {p q : Part} {step : Step} (h : q.SelectsIntoFirst)
    (into : (step, q) ∈ p.inside) (leading : step.leading = true) : p.SelectsIntoFirst := by
  obtain ⟨path, names, c, leads, hc, hpath⟩ := h
  refine ⟨_, _, c, .step into leads, hc, ?_⟩
  rw [Tree.strays, List.any_cons, leading]
  exact hpath

/-- The table to be created is found at a select that creates it. -/
theorem Part.selectsIntoFirst_of_createdTable {p : Part} (h : p.createdTable.isSome = true) :
    p.SelectsIntoFirst := by
  induction p using Part.inductionInside with
  | h p ih =>
    have behind {q : Part} (step : Step) (into : (step, q) ∈ p.inside)
        (leading : step.leading = true) (hq : q.createdTable.isSome = true) :
        p.SelectsIntoFirst :=
      (ih _ into hq).step into leading
    cases p with
    | statement s =>
      cases s with
      | query q => exact behind .whole (List.mem_singleton_self _) rfl h
      | _ => cases h
    | query q =>
      obtain ⟨ctes, recursive, body, trailing⟩ := q
      rw [Part.createdTable, Query.createdTable] at h
      exact behind .body (List.mem_append_right _ (List.mem_cons_self ..)) rfl h
    | body b =>
      cases b with
      | select s =>
        rw [Part.createdTable, Body.createdTable] at h
        exact ⟨[], [], _, .here _, h, rfl⟩
      | setOperation op left right =>
        rw [Part.createdTable, Body.createdTable, Option.isSome_or, Bool.or_eq_true] at h
        rcases h with h | h
        · exact behind .left (List.mem_cons_self ..) rfl h
        · exact behind .right (List.mem_cons_of_mem _ (List.mem_singleton_self _)) rfl h
      | nested q =>
        rw [Part.createdTable, Body.createdTable] at h
        exact behind .nested (List.mem_singleton_self _) rfl h
      | _ =>
        rw [Part.createdTable, Body.createdTable] at h
        cases h
    | item _ _ => cases h
    | name _ _ => cases h

/-- The search for a table to be created finds one if and only if a select that creates one
leads. -/
theorem Part.createdTable_isSome_iff {p : Part} :
    p.createdTable.isSome = true ↔ p.SelectsIntoFirst := by
  refine ⟨Part.selectsIntoFirst_of_createdTable, fun first => ?_⟩
  obtain ⟨path, names, c, leads, hc, hpath⟩ := first
  cases h : p.createdTable with
  | some _ => rfl
  | none =>
    have strayed := leads.strays h hc
    rw [hpath] at strayed
    cases strayed

/-- Whether a change escapes classification at the end of a path. -/
def Escapes (path : Path) (c : Part) : Prop :=
  ((c.changesData = true ∨ c.creates = true) ∧ overlooked path = true) ∨
    (c.selectsInto = true ∧ strays path = true)

theorem classify_eq_read {s : Statement} :
    s.classify = .ok .read ↔
      ∃ q, s = .query q ∧ q.createdTable = none ∧ q.modifies = false := by
  cases s with
  | query q =>
    rw [Statement.classify]
    cases hc : q.createdTable <;> cases hm : q.modifies <;> simp [hc, hm]
  | create c =>
    obtain ⟨kind, _, _⟩ := c
    cases kind <;> simp [Statement.classify]
  | _ => simp [Statement.classify]

theorem statement_of_change {c : Part} (h : c.changesData = true ∨ c.creates = true) :
    ∃ s, c = .statement s ∧ ∀ q, s ≠ .query q := by
  cases c with
  | statement s =>
    refine ⟨s, rfl, ?_⟩
    intro q same
    subst same
    rcases h with h | h <;> cases h
  | _ => rcases h with h | h <;> cases h

theorem Escapes.changes {path : Path} {c : Part} (h : Escapes path c) : c.changes :=
  or_assoc.mp (h.imp And.left And.left)

/-- In a statement that is classified as a read, every change escapes. -/
theorem escapes_of_read {s : Statement} (hs : s.classify = .ok .read) {path : Path}
    {names : List String} {c : Part} (leads : Leads (.statement s) path names c)
    (h : c.changes) : Escapes path c := by
  obtain ⟨q, rfl, hc, hm⟩ := classify_eq_read.mp hs
  rcases or_assoc.mpr h with h | h
  · obtain ⟨s, rfl, hne⟩ := statement_of_change h
    rcases leads.change_mem rfl with ⟨_, he⟩ | hmem
    · cases he
      exact absurd rfl (hne q)
    · exact .inl ⟨h, leads.overlooked hm hmem⟩
  · exact .inr ⟨h, leads.strays hc h⟩

end QueryGateway.Tree
