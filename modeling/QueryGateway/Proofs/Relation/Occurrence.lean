import QueryGateway.Proofs.Tree.Part

/-! The relations that a statement names, by paths.

A name occurs where a path from the root ends at it. Where it is written it always counts;
where it is read it counts unless a `WITH` list on the path binds it. What extraction
mentions in a part is told in the same terms: a scope holds the names that are visible, and
a reference is `Mentioned` below the part where a path leads to it. -/
namespace QueryGateway.Tree

/-! ### Occurrences -/

/-- A name is bound if it is unqualified and a visible name is the same but for the case
of letters. -/
def Bound (names : List String) (name : String) : Prop :=
  '.' ∉ name.toList ∧ ∃ m ∈ names, m.toLower = name.toLower

/-- A path at whose end a relation is named, in a role. -/
def Occurs (s : Statement) (path : Path) (role : Role) (name : String) : Prop :=
  ∃ names, Leads (.statement s) path names (.name role name) ∧ (role = .read → ¬ Bound names name)

/-- Whether a step leads from the clauses of a statement into a query within it. -/
def Step.enters : Step → Bool
  | .cte _ | .trailing _ | .rows | .embedded _ | .derived | .change => true
  | .named | .body | .target _ | .source _ | .left | .right | .whole | .nested => false

/-- The place at the end of a path that begins in a place. -/
def placeAt (place : Place) (path : Path) : Place :=
  if path.any Step.enters then .subquery else place

/-- The place behind a step. -/
def Step.placed (s : Step) (place : Place) : Place := if s.enters then .subquery else place

theorem placeAt_cons (place : Place) (s : Step) (path : Path) :
    placeAt place (s :: path) = placeAt (s.placed place) path := by
  unfold placeAt Step.placed
  rw [List.any_cons]
  cases s.enters <;> simp

/-- A reference that is made below a part at the end of a path, where names are visible
already and the part stands in a place. -/
def Mentioned (p : Part) (names : List String) (place : Place) (path : Path) (r : Reference) :
    Prop :=
  ∃ inner, Leads p path inner (.name r.role r.name) ∧
    (r.role = .read → ¬ Bound (inner ++ names) r.name) ∧ r.place = placeAt place path

theorem Bound.mono {names more : List String} {name : String} (h : Bound names name)
    (among : ∀ m ∈ names, m ∈ more) : Bound more name := by
  obtain ⟨dotless, m, hm, same⟩ := h
  exact ⟨dotless, m, among m hm, same⟩

theorem bound_append {names more : List String} {name : String} :
    Bound (names ++ more) name ↔ Bound names name ∨ Bound more name := by
  simp only [Bound, List.mem_append, or_and_right, exists_or, and_or_left]

theorem bound_congr {names names' : List String} (h : ∀ m, m ∈ names ↔ m ∈ names')
    (name : String) : Bound names name ↔ Bound names' name :=
  ⟨fun bound => bound.mono fun m => (h m).mp, fun bound => bound.mono fun m => (h m).mpr⟩

theorem mentioned_name {role : Role} {name : String} {names : List String} {place : Place}
    {path : Path} {r : Reference} :
    Mentioned (.name role name) names place path r ↔
      path = [] ∧ r = ⟨name, role, place⟩ ∧ (role = .read → ¬ Bound names name) := by
  constructor
  · intro mentioned
    obtain ⟨inner, h, hb, hp⟩ := mentioned
    obtain ⟨_, _, _⟩ := r
    cases h with
    | here =>
      obtain rfl := hp
      exact ⟨rfl, rfl, hb⟩
    | step into _ => cases into
  · intro named
    obtain ⟨rfl, rfl, hb⟩ := named
    exact ⟨[], .here _, hb, rfl⟩

/-- Below a part that is no name, what is mentioned is mentioned inside it. -/
theorem mentioned_inside {p : Part} (hp : ∀ role name, p ≠ .name role name)
    {names : List String} {place : Place} {path : Path} {r : Reference} :
    Mentioned p names place path r ↔
      ∃ c ∈ p.inside, ∃ rest, path = c.1 :: rest ∧
        Mentioned c.2 (p.visible c.1 ++ names) (c.1.placed place) rest r := by
  have reorder (a b : List String) :
      Bound ((a ++ b) ++ names) r.name ↔ Bound (b ++ (a ++ names)) r.name :=
    bound_congr (fun m => by simp only [List.mem_append]; grind) _
  constructor
  · intro mentioned
    obtain ⟨inner, h, hb, hplace⟩ := mentioned
    cases h with
    | here => exact absurd rfl (hp _ _)
    | @step _ q _ step rest inner' into h =>
      refine ⟨(step, q), into, rest, rfl, inner', h, ?_, ?_⟩
      · rwa [← reorder]
      · rwa [← placeAt_cons]
  · intro found
    obtain ⟨⟨step, q⟩, into, rest, rfl, inner, h, hb, hplace⟩ := found
    refine ⟨_, .step into h, ?_, ?_⟩
    · rwa [reorder]
    · rwa [placeAt_cons]

/-! ### The walk, part by part -/

/-- The mentions in a part. -/
def Part.mentions (scope : Scope) (place : Place) : Part → List Reference
  | .statement s => s.mentions scope place
  | .query q => q.mentions scope place
  | .body b => b.mentions scope place
  | .item role i => i.mentions scope role place
  | .name role n => mention scope role place n

/-- The scope that the walk has behind a step. -/
def Part.scopeAt (scope : Scope) : Part → Step → Scope
  | .query q, .cte i =>
    if q.recursive then boundNames q.ctes ++ scope
    else (boundNames (q.ctes.take i)).reverse ++ scope
  | .query q, _ => boundNames q.ctes ++ scope
  | _, _ => scope

/-- A scope holds the names in lower case. -/
def Lowers (scope : Scope) (names : List String) : Prop :=
  ∀ x, x ∈ scope ↔ x ∈ names.map String.toLower

theorem Lowers.binds {scope : Scope} {names : List String} (h : Lowers scope names)
    (name : String) : scope.binds name = true ↔ Bound names name := by
  simp [Scope.binds, Bound, String.contains_char_eq, h name.toLower]

theorem Lowers.append {scope : Scope} {names : List String} (h : Lowers scope names)
    (ctes : List Cte) : Lowers (boundNames ctes ++ scope) (ctes.map Cte.name ++ names) := by
  intro x
  simp [boundNames, h x]

theorem Lowers.scopeAt {scope : Scope} {names : List String} (h : Lowers scope names) (p : Part)
    (step : Step) : Lowers (p.scopeAt scope step) (p.visible step ++ names) := by
  cases p with
  | query q =>
    cases step with
    | cte i =>
      simp only [Part.scopeAt, Part.visible]
      split
      · exact h.append q.ctes
      · intro x
        rw [← h.append (q.ctes.take i) x]
        simp
    | _ => exact h.append q.ctes
  | _ => exact h

theorem flatMap_numbered {α β : Type} {step : Nat → Step} {part : α → Part} {xs : List α}
    {f : Step × Part → List β} {g : α → List β} (h : ∀ i x, f (step i, part x) = g x) :
    (numbered step part xs).flatMap f = xs.flatMap g := by
  induction xs generalizing step with
  | nil => rfl
  | cons x xs ih => rw [numbered_cons, List.flatMap_cons, List.flatMap_cons, h, ih fun i => h (i + 1)]

theorem queriesMentions_eq (scope : Scope) (qs : List Query) :
    queriesMentions scope qs = qs.flatMap fun q => q.mentions scope .subquery := by
  induction qs with
  | nil => simp [queriesMentions]
  | cons q rest ih => rw [queriesMentions, ih, List.flatMap_cons]

theorem itemsMentions_eq (scope : Scope) (role : Role) (place : Place) (items : List Item) :
    itemsMentions scope role place items = items.flatMap fun i => i.mentions scope role place := by
  induction items with
  | nil => simp [itemsMentions]
  | cons i rest ih => rw [itemsMentions, ih, List.flatMap_cons]

theorem ctesMentions_eq (scope : Scope) (ctes : List Cte) :
    ctesMentions scope ctes = ctes.flatMap fun c => c.query.mentions scope .subquery := by
  induction ctes with
  | nil => simp [ctesMentions]
  | cons c rest ih =>
    obtain ⟨name, q⟩ := c
    rw [ctesMentions, ih, List.flatMap_cons]

end QueryGateway.Tree
