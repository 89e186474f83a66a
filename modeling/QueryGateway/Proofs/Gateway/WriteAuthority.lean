import QueryGateway.Proofs.Gateway.Clearance
import QueryGateway.Proofs.Tree.Change

/-! What the authorizer is asked when a statement changes data.

A statement that creates an object is cleared by the account's key, and the authorizer is
asked about reading alone. Any other statement in which classification sees a change of
data has all its relations authorized for writing (`authority_of_change`). -/
namespace QueryGateway

open Dialogue QueryGateway.Tree

/-- Whether a statement creates an object, itself or by the select that leads it. -/
def Tree.Statement.createsObject : Statement → Bool
  | .create _ => true
  | s => s.createdTable.isSome

/-- The event is a question about an access to a relation. -/
def Event.AsksFor (account : String) (requireWrite : Bool) (e : Event) : Prop :=
  ∃ q, e.1 = .authorize account q ∧ q.requireWrite = requireWrite

/-- The relation was asked about for writing, and granted. -/
def WriteGranted (account relation : String) (events : List Event) : Prop :=
  ∃ e ∈ events, e.Granted ∧
    ∃ q, e.1 = .authorize account q ∧ q.relation = relation ∧ q.requireWrite = true

/-! ### Operations -/

theorem classify_creates_iff {s : Statement} {operation : Operation}
    (h : s.classify = .ok operation) :
    operation = .createWithKey ↔ s.createsObject = true := by
  cases s with
  | query q =>
    rw [Statement.classify] at h
    show _ ↔ q.createdTable.isSome = true
    cases hc : q.createdTable.isSome with
    | true =>
      rw [hc] at h
      cases h
      exact iff_of_true rfl rfl
    | false =>
      rw [hc] at h
      have other : operation ≠ .createWithKey := by
        cases hm : q.modifies <;>
        · rw [hm] at h
          cases h
          decide
      exact iff_of_false other Bool.false_ne_true
  | create c =>
    obtain ⟨kind, name, queries⟩ := c
    cases kind <;> cases h <;> simp [Statement.createsObject]
  | drop _ => cases h
  | alter _ => cases h
  | other _ => cases h
  | _ => cases h; simp [Statement.createsObject, Statement.createdTable]

theorem classify_ne_read {s : Statement} {operation : Operation} (h : s.classify = .ok operation)
    {path : Path} {names : List String} {c : Part} (leads : Leads (.statement s) path names c)
    (changes : c.changesData = true) (seen : ∀ q, s = .query q → overlooked path = false) :
    operation ≠ .read := by
  intro hread
  subst hread
  obtain ⟨q, hq, _⟩ := classify_eq_read.mp h
  rcases escapes_of_read h leads (.inl changes) with ⟨_, hidden⟩ | ⟨hinto, _⟩
  · rw [seen q hq] at hidden
    cases hidden
  · obtain ⟨s, rfl, _⟩ := statement_of_change (.inl changes)
    cases hinto

/-! ### Questions -/

section Questions

variable {policy : Policy} {account : AccountContext} {credentials : Credentials} {sql : String}
  {operation : Operation} {relations : RelationSet} {events : List Event}

theorem Cleared.asksFor
    (h : Cleared policy account credentials sql operation relations events) :
    ∀ e ∈ events, e.AsksFor account.name (operation == .write) := by
  intro e he
  have hcall : e.1 ∈ events.map (·.1) := List.mem_map_of_mem he
  rw [h.asked] at hcall
  obtain ⟨relation, _, hq⟩ := List.mem_map.mp hcall
  exact ⟨_, hq.symm, rfl⟩

theorem Cleared.writeGranted (h : Cleared policy account credentials sql .write relations events)
    {relation : String} (hr : relation ∈ relations.names) :
    WriteGranted account.name relation events := by
  have hcall : Call.authorize account.name ⟨relation, credentials, true, relations.names⟩ ∈
      events.map (·.1) := by
    rw [h.asked]
    exact List.mem_map_of_mem hr
  obtain ⟨e, he, hq⟩ := List.mem_map.mp hcall
  exact ⟨e, he, h.granted e he, _, hq, rfl, rfl⟩

end Questions

/-! ### Changes of data -/

theorem exists_of_parse {policy : Policy} {account : AccountContext} {credentials : Credentials}
    {sql : String} {operation : Operation} {relations : RelationSet} {events : List Event}
    (h : Cleared policy account credentials sql operation relations events) {tree : Tree.Statement}
    (parsed : Sql.parse sql = .ok tree) :
    policy.extract tree = .ok relations ∧ tree.classify = .ok operation := by
  obtain ⟨_, tree', _, hparse, _, hextract, hclassify⟩ := h.understood
  obtain rfl : tree' = tree := by
    rw [parsed] at hparse
    cases hparse
    rfl
  exact ⟨hextract, hclassify⟩

/-- **Whoever changes data has been asked for the authority to write**: where a statement
that creates no object is seen to change data, every question is about writing and every
relation that the change writes is granted. A statement that creates an object asks about
reading alone, and is cleared by the account's own key. -/
theorem authority_of_change {policy : Policy} {r : Request} {account : AccountContext}
    {events : List Event} {p : Prepared} {tree : Tree.Statement} {path : Path}
    {names : List String} {c : Part}
    (prepared : (prepare policy r account).Yields events (.ok p))
    (parsed : Sql.parse r.sql = .ok tree)
    (leads : Leads (.statement tree) path names c) (changes : c.changesData = true) :
    (tree.createsObject = false → (∀ q, tree = .query q → overlooked path = false) →
      (∀ e ∈ events, e.AsksFor account.name true) ∧
      ∀ inner bound target, Leads c inner bound (.name .write target) →
        WriteGranted account.name target events) ∧
    (tree.createsObject = true →
      (∀ e ∈ events, e.AsksFor account.name false) ∧
      ∃ key, key ≠ "" ∧ account.apiKey = some key ∧ r.apiKey = some key) := by
  obtain ⟨_, cleared⟩ := cleared_of_prepare prepared
  obtain ⟨extracted, classified⟩ := exists_of_parse cleared parsed
  constructor
  · intro hcreates seen
    have hwrite : p.operation = .write := by
      have hread := classify_ne_read classified leads changes seen
      have hkey := (classify_creates_iff classified).not.mpr (by simp [hcreates])
      cases ho : p.operation with
      | read => exact absurd ho hread
      | write => rfl
      | createWithKey => exact absurd ho hkey
    rw [hwrite] at cleared
    refine ⟨cleared.asksFor, fun inner bound target hinner => cleared.writeGranted ?_⟩
    have occurs : Occurs tree (path ++ inner) .write target := ⟨_, leads.append hinner, nofun⟩
    exact ((exact_of_extract extracted).mem_names target).mpr ⟨_, _, occurs⟩
  · intro hcreates
    have hkey := (classify_creates_iff classified).mpr hcreates
    rw [hkey] at cleared
    exact ⟨cleared.asksFor, cleared.admitted rfl⟩

/-- A statement that inserts a row. -/
def insertion : Request where
  sql := "INSERT INTO t VALUES (1)"

/-- A statement that creates a table and inserts a row into another on its way. -/
def insertingCreation : Request where
  sql := "CREATE TABLE c AS WITH w AS (INSERT INTO t VALUES (1) RETURNING a) SELECT 1"
  apiKey := some "key"

/-- The row of an insertion is inserted with authority. -/
theorem insertion_has_authority : ∃ (i : Insert) (events : List Event) (p : Prepared),
    (prepare {} insertion ⟨"demo", none⟩).Yields events (.ok p) ∧
    Sql.parse insertion.sql = .ok (.insert i) ∧
    (∀ e ∈ events, e.AsksFor "demo" true) ∧ WriteGranted "demo" i.table events := by
  obtain ⟨⟨tree, operation, relations⟩, inspected, holds⟩ := exists_inspection {} insertion.sql
    (fun found => found.tree.keyword = "INSERT") (by decide +kernel)
  obtain ⟨_, parsed, _, classified⟩ := inspect_eq_ok.mp inspected
  cases tree with
  | insert i =>
    obtain ⟨table, source, embedded⟩ := i
    obtain ⟨p, prepared⟩ := prepare_grants ⟨"demo", none⟩ inspected
      (by cases classified; nofun)
    obtain ⟨asks, granted⟩ := (authority_of_change prepared parsed (.here _) rfl).1 rfl nofun
    have named : (.named, .name .write table) ∈
        (Part.statement (.insert ⟨table, source, embedded⟩)).inside :=
      List.mem_append_left _ (List.mem_cons_self ..)
    exact ⟨_, _, p, prepared, parsed, asks, granted _ _ _ (.step named (.here _))⟩
  | create c =>
    obtain ⟨kind, _, _⟩ := c
    cases holds
  | other _ => cases classified
  | _ => cases holds

/-- The row that a creation inserts on its way is inserted without authority. -/
theorem creation_lacks_authority : ∃ (tree : Tree.Statement) (events : List Event) (p : Prepared),
    (prepare {} insertingCreation ⟨"demo", some "key"⟩).Yields events (.ok p) ∧
    Sql.parse insertingCreation.sql = .ok tree ∧
    (Part.statement tree).Has (fun c => c.changesData = true) ∧
    ¬ ∀ e ∈ events, e.AsksFor "demo" true := by
  obtain ⟨found, inspected, holds⟩ := exists_inspection {} insertingCreation.sql
    (fun found => found.relations.names = ["c", "t"] &&
      (found.operation = .createWithKey && decide (.insert ∈ found.tree.sections)))
    (by decide +kernel)
  obtain ⟨hnames, hrest⟩ := Bool.and_eq_true_iff.mp holds
  obtain ⟨hcreates, hinsert⟩ := Bool.and_eq_true_iff.mp hrest
  have names : found.relations.names = ["c", "t"] := of_decide_eq_true hnames
  have creates : found.operation = .createWithKey := of_decide_eq_true hcreates
  obtain ⟨_, parsed, _⟩ := inspect_eq_ok.mp inspected
  obtain ⟨p, prepared⟩ := prepare_grants ⟨"demo", some "key"⟩ inspected
    fun _ => by decide
  obtain ⟨path, bound, c, leads, hown⟩ :=
    (found.tree.mem_sections .insert).mp (of_decide_eq_true hinsert)
  have changes := (changesData_iff_own c).mpr ⟨.insert, hown, rfl⟩
  refine ⟨found.tree, _, p, prepared, parsed, ⟨path, bound, c, leads, changes⟩, fun asks => ?_⟩
  rw [names, creates] at asks
  obtain ⟨q, hq, hwrite⟩ := asks _ (List.mem_cons_self ..)
  cases hq
  cases hwrite

end QueryGateway
