import QueryGateway.Proofs.Relation.Occurrence
import QueryGateway.Proofs.Tree.Order

/-! The walk that extraction takes through a statement.

What a part mentions is what is mentioned inside it, in order (`Part.mentions_inside`). By
induction over parts the mentions are a row of paths, each with its reference, in the order
of the paths and without a gap (`exists_walk`). -/
namespace QueryGateway.Tree

theorem flatMap_embedded {step : Nat → Step} (scope : Scope) (qs : List Query)
    {f : Step × Part → List Reference}
    (h : ∀ i q, f (step i, .query q) = q.mentions scope .subquery) :
    (numbered step .query qs).flatMap f = queriesMentions scope qs := by
  rw [queriesMentions_eq, flatMap_numbered h]

theorem flatMap_items {step : Nat → Step} (scope : Scope) (role : Role) (place : Place)
    (items : List Item) {f : Step × Part → List Reference}
    (h : ∀ n i, f (step n, .item role i) = i.mentions scope role place) :
    (numbered step (.item role) items).flatMap f = itemsMentions scope role place items := by
  rw [itemsMentions_eq, flatMap_numbered h]

/-- Entry by entry, each sees the names before it. -/
theorem flatMap_inOrder {step : Nat → Step} (scope : Scope) (ctes : List Cte)
    {f : Step × Part → List Reference}
    (h : ∀ i q, f (step i, .query q) =
      q.mentions ((boundNames (ctes.take i)).reverse ++ scope) .subquery) :
    (numbered step (fun c => .query c.query) ctes).flatMap f = ctesInOrder scope ctes := by
  induction ctes generalizing scope step with
  | nil => simp [ctesInOrder]
  | cons c rest ih =>
    obtain ⟨name, q⟩ := c
    have later : ∀ i q, f (step (i + 1), .query q) =
        q.mentions ((boundNames (rest.take i)).reverse ++ name.toLower :: scope) .subquery := by
      intro i q
      rw [h]
      simp [boundNames]
    rw [numbered_cons, List.flatMap_cons, h, ih (name.toLower :: scope) later, ctesInOrder]
    rfl

theorem Statement.mentions_inside (s : Statement) (scope : Scope) (place : Place) :
    s.mentions scope place = s.inside.flatMap fun c => c.2.mentions scope (c.1.placed place) := by
  cases s with
  | query q => exact (List.append_nil _).symm
  | insert i =>
    obtain ⟨table, source, embedded⟩ := i
    rw [Statement.inside, List.flatMap_append, List.flatMap_cons,
      flatMap_embedded scope embedded fun _ _ => rfl]
    cases source <;> simp [Statement.mentions, optionMentions, Part.mentions, mention, Step.placed,
      Step.enters]
  | update u =>
    obtain ⟨target, source, embedded⟩ := u
    rw [Statement.inside, List.flatMap_append, List.flatMap_append,
      flatMap_items scope .write place target fun _ _ => rfl,
      flatMap_items scope .read place source fun _ _ => rfl,
      flatMap_embedded scope embedded fun _ _ => rfl, Statement.mentions]
  | delete d =>
    obtain ⟨targets, source, embedded⟩ := d
    rw [Statement.inside, List.flatMap_append, List.flatMap_append,
      flatMap_items scope .write place targets fun _ _ => rfl,
      flatMap_items scope .read place source fun _ _ => rfl,
      flatMap_embedded scope embedded fun _ _ => rfl, Statement.mentions]
  | create c =>
    obtain ⟨kind, name, queries⟩ := c
    rw [Statement.inside, List.flatMap_append, flatMap_embedded scope queries fun _ _ => rfl]
    cases name <;> simp [Statement.mentions, Part.mentions, mention, Step.placed, Step.enters]
  | drop _ => simp [Statement.mentions, Statement.inside]
  | alter _ => simp [Statement.mentions, Statement.inside]
  | other _ => simp [Statement.mentions, Statement.inside]

theorem Query.mentions_inside (q : Query) (scope : Scope) (place : Place) :
    q.mentions scope place = q.inside.flatMap fun c =>
      c.2.mentions ((Part.query q).scopeAt scope c.1) (c.1.placed place) := by
  obtain ⟨ctes, recursive, body, trailing⟩ := q
  rw [Query.inside, List.flatMap_append, List.flatMap_cons,
    flatMap_embedded (boundNames ctes ++ scope) trailing fun _ _ => rfl, Query.mentions]
  have entries : (numbered .cte (fun c => .query c.query) ctes).flatMap (fun c =>
      c.2.mentions ((Part.query ⟨ctes, recursive, body, trailing⟩).scopeAt scope c.1)
        (c.1.placed place)) =
      if recursive then ctesMentions (boundNames ctes ++ scope) ctes
      else ctesInOrder scope ctes := by
    cases recursive with
    | true =>
      rw [if_pos rfl, ctesMentions_eq]
      exact flatMap_numbered fun _ _ => rfl
    | false =>
      rw [if_neg Bool.false_ne_true]
      exact flatMap_inOrder scope ctes fun _ _ => rfl
  rw [entries, List.append_assoc]
  rfl

theorem Body.mentions_inside (b : Body) (scope : Scope) (place : Place) :
    b.mentions scope place = b.inside.flatMap fun c => c.2.mentions scope (c.1.placed place) := by
  cases b with
  | select s =>
    obtain ⟨source, embedded, into⟩ := s
    rw [Body.inside, List.flatMap_append, List.flatMap_append,
      flatMap_items scope .read place source fun _ _ => rfl,
      flatMap_embedded scope embedded fun _ _ => rfl]
    cases into <;> simp [Body.mentions, Part.mentions, mention, Step.placed, Step.enters]
  | setOperation op left right =>
    rw [Body.inside, List.flatMap_cons, List.flatMap_singleton, Body.mentions]
    rfl
  | nested q =>
    rw [Body.inside, List.flatMap_singleton, Body.mentions]
    rfl
  | values embedded =>
    rw [Body.inside, flatMap_embedded scope embedded fun _ _ => rfl, Body.mentions]
  | table name =>
    rw [Body.inside, List.flatMap_singleton, Body.mentions]
    rfl
  | modify s =>
    rw [Body.inside, List.flatMap_singleton, Body.mentions]
    rfl

theorem Item.mentions_inside (i : Item) (scope : Scope) (role : Role) (place : Place) :
    i.mentions scope role place =
      (i.inside role).flatMap fun c => c.2.mentions scope (c.1.placed place) := by
  cases i with
  | table name =>
    rw [Item.inside, List.flatMap_singleton, Item.mentions]
    rfl
  | subquery q _ =>
    rw [Item.inside, List.flatMap_singleton, Item.mentions]
    rfl
  | function _ embedded =>
    rw [Item.inside, flatMap_embedded scope embedded fun _ _ => rfl, Item.mentions]
  | other embedded =>
    rw [Item.inside, flatMap_embedded scope embedded fun _ _ => rfl, Item.mentions]

/-- What a part that is no name mentions is what is mentioned inside it, in order. -/
theorem Part.mentions_inside {p : Part} (hp : ∀ role name, p ≠ .name role name) (scope : Scope)
    (place : Place) :
    p.mentions scope place = p.inside.flatMap fun c =>
      c.2.mentions (p.scopeAt scope c.1) (c.1.placed place) := by
  cases p with
  | statement s => exact s.mentions_inside scope place
  | query q => exact q.mentions_inside scope place
  | body b => exact b.mentions_inside scope place
  | item role i => exact i.mentions_inside scope role place
  | name role name => exact absurd rfl (hp role name)

/-! ### The walk as a row of paths -/

/-- A walk lists what is mentioned below a part: every reference, each at its path, in the
order of the paths. -/
structure Enumerates (p : Part) (names : List String) (place : Place)
    (walk : List (Path × Reference)) : Prop where
  ordered : walk.Pairwise fun a b => Precedes a.1 b.1
  mem_iff : ∀ path r, (path, r) ∈ walk ↔ Mentioned p names place path r

/-- A walk behind a step. -/
def behind (s : Step) (walk : List (Path × Reference)) : List (Path × Reference) :=
  walk.map fun m => (s :: m.1, m.2)

theorem mem_behind {s : Step} {walk : List (Path × Reference)} {path : Path} {r : Reference} :
    (path, r) ∈ behind s walk ↔ ∃ rest, path = s :: rest ∧ (rest, r) ∈ walk := by
  simp only [behind, List.mem_map, Prod.mk.injEq, Prod.exists]
  constructor
  · intro found
    obtain ⟨rest, r', h, rfl, rfl⟩ := found
    exact ⟨rest, rfl, h⟩
  · intro found
    obtain ⟨rest, rfl, h⟩ := found
    exact ⟨rest, r, h, rfl, rfl⟩

/-- Parts that stand in the order of the walk are walked through one after the other. -/
theorem exists_walk_row (names : Step → List String) (place : Step → Place)
    (mentions : Step × Part → List Reference) (cs : List (Step × Part))
    (ordered : cs.Pairwise fun a b => a.1.Before b.1)
    (h : ∀ c ∈ cs, ∃ walk, Enumerates c.2 (names c.1) (place c.1) walk ∧
      walk.map Prod.snd = mentions c) :
    ∃ walk : List (Path × Reference), (walk.Pairwise fun a b => Precedes a.1 b.1) ∧
      (∀ path r, (path, r) ∈ walk ↔ ∃ c ∈ cs, ∃ rest, path = c.1 :: rest ∧
        Mentioned c.2 (names c.1) (place c.1) rest r) ∧
      walk.map Prod.snd = cs.flatMap mentions := by
  induction cs with
  | nil => exact ⟨[], .nil, by simp, rfl⟩
  | cons c cs ih =>
    obtain ⟨first, hfirst, hmap⟩ := h c (List.mem_cons_self ..)
    obtain ⟨hbefore, ordered⟩ := List.pairwise_cons.mp ordered
    obtain ⟨later, hlater, hmem, hmap'⟩ := ih ordered fun d hd => h d (List.mem_cons_of_mem _ hd)
    refine ⟨behind c.1 first ++ later, ?_, fun path r => ?_, ?_⟩
    · refine List.pairwise_append.mpr ⟨?_, hlater, ?_⟩
      · exact List.pairwise_map.mpr (hfirst.ordered.imp fun h => h.cons c.1)
      · intro first hm second hm'
        obtain ⟨path, r⟩ := first
        obtain ⟨path', r'⟩ := second
        obtain ⟨rest, rfl, _⟩ := mem_behind.mp hm
        obtain ⟨d, hd, rest', rfl, _⟩ := (hmem path' r').mp hm'
        exact (hbefore d hd).precedes rest rest'
    · rw [List.mem_append, mem_behind, hmem]
      simp only [hfirst.mem_iff, List.mem_cons, exists_eq_or_imp]
    · rw [List.map_append, hmap', List.flatMap_cons, ← hmap, behind, List.map_map]
      rfl

theorem mention_bound {scope : Scope} {names : List String} (hs : Lowers scope names)
    {name : String} (h : Bound names name) (place : Place) :
    mention scope .read place name = [] :=
  if_pos ((hs.binds name).mpr h)

theorem mention_free {scope : Scope} {names : List String} (hs : Lowers scope names) {role : Role}
    {name : String} (h : ¬ (role = .read ∧ Bound names name)) (place : Place) :
    mention scope role place name = [⟨name, role, place⟩] := by
  cases role with
  | write => rfl
  | read => exact if_neg fun hb => h ⟨rfl, (hs.binds name).mp hb⟩

theorem exists_walk_name (role : Role) (name : String) (place : Place) {scope : Scope}
    {names : List String} (hs : Lowers scope names) :
    ∃ walk, Enumerates (.name role name) names place walk ∧
      walk.map Prod.snd = mention scope role place name := by
  by_cases h : role = .read ∧ Bound names name
  · obtain ⟨rfl, hb⟩ := h
    refine ⟨[], ⟨.nil, fun path r => ?_⟩, (mention_bound hs hb place).symm⟩
    rw [mentioned_name]
    constructor
    · intro hm
      cases hm
    · intro named
      obtain ⟨_, _, hfree⟩ := named
      exact absurd hb (hfree rfl)
  · refine ⟨[([], ⟨name, role, place⟩)], ⟨List.pairwise_singleton .., fun path r => ?_⟩,
      (mention_free hs h place).symm⟩
    rw [mentioned_name, List.mem_singleton, Prod.mk.injEq]
    constructor
    · intro named
      obtain ⟨hpath, hr⟩ := named
      exact ⟨hpath, hr, fun hread hb => h ⟨hread, hb⟩⟩
    · intro named
      obtain ⟨hpath, hr, _⟩ := named
      exact ⟨hpath, hr⟩

/-- **The walk is exact**: below any part the mentions are those that paths lead to, in the
order of the paths. -/
theorem exists_walk (p : Part) : ∀ (scope : Scope) (names : List String) (place : Place),
    Lowers scope names → ∃ walk, Enumerates p names place walk ∧
      walk.map Prod.snd = p.mentions scope place := by
  induction p using Part.inductionInside with
  | h p ih =>
    intro scope names place hs
    by_cases hp : ∀ role name, p ≠ .name role name
    · obtain ⟨walk, ordered, hmem, hmap⟩ := exists_walk_row (fun s => p.visible s ++ names)
        (fun s => s.placed place) (fun c => c.2.mentions (p.scopeAt scope c.1) (c.1.placed place))
        p.inside p.inside_ordered fun c hc => ih c hc _ _ _ (hs.scopeAt p c.1)
      refine ⟨walk, ⟨ordered, fun path r => ?_⟩, ?_⟩
      · rw [hmem, mentioned_inside hp]
      · rw [hmap, p.mentions_inside hp]
    · obtain ⟨role, name, rfl⟩ : ∃ role name, p = .name role name := by
        simpa using hp
      exact exists_walk_name role name place hs

end QueryGateway.Tree
