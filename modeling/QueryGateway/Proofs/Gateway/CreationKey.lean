import QueryGateway.Proofs.Gateway.WriteAuthority
import QueryGateway.Proofs.Relation.ReadOnly

/-! When whoever creates a table must show the account's own key.

The key is asked for where classification finds a creation: a statement that is one, or a
query with a select into a table among the selects that lead it. A select into a table
anywhere else is run on anyone's key (`key_needed_iff`). -/
namespace QueryGateway

open Dialogue QueryGateway.Tree

/-- The request came with the account's own key, which is not empty. -/
def HoldsKey (r : Request) (account : AccountContext) : Prop :=
  ∃ key, key ≠ "" ∧ account.apiKey = some key ∧ r.apiKey = some key

/-- Whoever has the text prepared, for whatever account and with whatever answers of the
authorizer, has come with the account's own key. -/
def NeedsKey (policy : Policy) (sql : String) : Prop :=
  ∀ (r : Request) (account : AccountContext) (events : List Event) (p : Prepared), r.sql = sql →
    (prepare policy r account).Yields events (.ok p) → HoldsKey r account

/-- Whether a statement creates a table or a view somewhere: as a whole, or by a select at
any depth. -/
def Tree.Statement.Creates (s : Statement) : Prop :=
  (∃ c, s = .create c) ∨ (Part.statement s).Has fun c => c.selectsInto = true

theorem createsObject_iff {s : Statement} :
    s.createsObject = true ↔ (∃ c, s = .create c) ∨ (Part.statement s).SelectsIntoFirst := by
  rw [← Part.createdTable_isSome_iff]
  cases s with
  | query q => simp [Statement.createsObject, Statement.createdTable, Part.createdTable]
  | create c => simp [Statement.createsObject]
  | _ => simp [Statement.createsObject, Statement.createdTable, Part.createdTable]

theorem Cleared.holdsKey {policy : Policy} {r : Request} {account : AccountContext}
    {operation : Operation} {relations : RelationSet} {events : List Event}
    (h : Cleared policy account r.credentials r.sql operation relations events)
    (creates : operation = .createWithKey) : HoldsKey r account :=
  h.admitted creates

/-- **The key is needed if and only if the creation leads**: a text that passes inspection
is prepared on nothing but the account's own key if it is a creation as a whole, or has a
select into a table behind none but bodies, sides of set operations and nested queries;
any other text is prepared without a key. -/
theorem key_needed_iff {policy : Policy} {sql : String} {found : Inspection}
    (inspected : inspect policy sql = .ok found) :
    NeedsKey policy sql ↔
      (∃ c, found.tree = .create c) ∨ (Part.statement found.tree).SelectsIntoFirst := by
  obtain ⟨_, parsed, _, classified⟩ := inspect_eq_ok.mp inspected
  rw [← createsObject_iff, ← classify_creates_iff classified]
  constructor
  · intro needs
    cases ho : found.operation with
    | createWithKey => rfl
    | _ =>
      -- Without a key the same text is prepared if the authorizer grants everything.
      obtain ⟨p, prepared⟩ := prepare_grants (r := { sql := sql }) ⟨"", none⟩ inspected
        (fun creates => absurd creates (by rw [ho]; decide))
      obtain ⟨_, _, none, _⟩ := needs _ _ _ p rfl prepared
      cases none
  · intro creates r account events p hsql prepared
    subst hsql
    obtain ⟨_, cleared⟩ := cleared_of_prepare prepared
    obtain ⟨_, again⟩ := exists_of_parse cleared parsed
    have same : found.operation = p.operation := Except.ok.inj (classified.symm.trans again)
    exact cleared.holdsKey (same.symm.trans creates)

/-- A query that is a select into a table is prepared on the account's own key alone. -/
theorem select_into_needs_key : ∃ found, inspect {} "SELECT 1 AS a INTO c" = .ok found ∧
    found.operation = .createWithKey ∧ NeedsKey {} "SELECT 1 AS a INTO c" := by
  obtain ⟨found, inspected, holds⟩ := exists_inspection {} "SELECT 1 AS a INTO c"
    (fun found => found.operation = .createWithKey) (by decide +kernel)
  have creates : found.operation = .createWithKey := of_decide_eq_true holds
  obtain ⟨_, _, _, classified⟩ := inspect_eq_ok.mp inspected
  refine ⟨found, inspected, creates, (key_needed_iff inspected).mpr ?_⟩
  rw [← createsObject_iff, ← classify_creates_iff classified]
  exact creates

/-- A named query that is a select into a table. -/
def hiddenCreation : Request where
  sql := "WITH w AS (SELECT 1 AS a INTO c) SELECT 1"

/-- A read may create a table, in a named query, without a key. -/
theorem hidden_creation_needs_no_key :
    ∃ (tree : Tree.Statement) (account : AccountContext) (events : List Event) (p : Prepared),
      (prepare {} hiddenCreation account).Yields events (.ok p) ∧
      Sql.parse hiddenCreation.sql = .ok tree ∧ tree.Creates ∧
      ¬ HoldsKey hiddenCreation account := by
  obtain ⟨found, inspected, holds⟩ := exists_inspection {} hiddenCreation.sql
    (fun found => (found.operation = .read && !found.relations.writes.isEmpty) &&
      found.tree.sections = [.select]) (by decide +kernel)
  obtain ⟨hfirst, hsections⟩ := Bool.and_eq_true_iff.mp holds
  obtain ⟨hread, hwrites⟩ := Bool.and_eq_true_iff.mp hfirst
  have read : found.operation = .read := of_decide_eq_true hread
  have sections : found.tree.sections = [.select] := of_decide_eq_true hsections
  obtain ⟨_, parsed, extracted, _⟩ := inspect_eq_ok.mp inspected
  obtain ⟨p, prepared⟩ := prepare_grants (r := hiddenCreation) ⟨"demo", some "key"⟩ inspected
    (fun creates => absurd creates (by rw [read]; decide))
  refine ⟨found.tree, _, _, p, prepared, parsed, .inr ?_, fun held => ?_⟩
  · -- Something is written, and it is neither by a change of data nor by a `CREATE`.
    obtain ⟨w, hw⟩ := List.exists_mem_of_ne_nil _
      (by simpa [List.isEmpty_iff] using hwrites : found.relations.writes ≠ [])
    obtain ⟨hmem, hrole⟩ := List.mem_filter.mp hw
    have written := (exact_of_extract extracted).exists_write_iff.mp
      ⟨w, hmem, of_decide_eq_true hrole⟩
    obtain ⟨path, names, c, leads, hc⟩ := (has_change_iff found.tree).mpr (.inl written)
    have only {sec : Section} (hsec : sec ∈ c.own) : sec = .select := by
      have met := (found.tree.mem_sections sec).mpr ⟨path, names, c, leads, hsec⟩
      rw [sections] at met
      exact List.mem_singleton.mp met
    rcases hc with hd | hcreates | hinto
    · obtain ⟨sec, hsec, hd⟩ := (changesData_iff_own c).mp hd
      rw [only hsec] at hd
      cases hd
    · cases c with
      | statement s =>
        cases s with
        | create c =>
          obtain ⟨kind, _, _⟩ := c
          have : Section.create = .select := only (by cases kind <;> exact List.mem_cons_self ..)
          cases this
        | _ => cases hcreates
      | _ => cases hcreates
    · exact ⟨path, names, c, leads, hinto⟩
  · obtain ⟨_, _, _, none⟩ := held
    cases none

end QueryGateway
