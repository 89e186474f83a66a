import QueryGateway.Proofs.Relation.Occurrence
import QueryGateway.Proofs.Sql.Placement

/-! What the queries of a statement draw on.

A relation with a dot in its name is found wherever it has a place. One without is found
unless an entry of a `WITH` list on the way to it has its name: what a query draws on
occurs in the statement around it (`occurs_of_draws`). -/
namespace QueryGateway

namespace Tree

/-! ### Ways to entries -/

/-- On the way to an entry of a part lies no `WITH` list, for a query is an entry itself. -/
theorem leads_of_mem_entries {c p : Part} (h : p ∈ c.entries) : ∃ path, Leads c path [] p := by
  induction c using Part.inductionInside with
  | h c ih =>
    have inside (unseen : ∀ step, c.visible step = []) (there : p ∈ Part.entriesInside c.inside) :
        ∃ path, Leads c path [] p := by
      obtain ⟨⟨step, d⟩, hd, hp⟩ := List.mem_flatMap.mp there
      obtain ⟨path, leads⟩ := ih _ hd hp
      have led := Leads.step hd leads
      rw [unseen step] at led
      exact ⟨_, led⟩
    cases c with
    | statement s => exact inside (fun _ => rfl) (s.held_eq ▸ h)
    | body b => exact inside (fun _ => rfl) (b.held_eq ▸ h)
    | item role i => exact inside (fun _ => rfl) (i.held_eq role ▸ h)
    | query q =>
      obtain rfl := List.mem_singleton.mp h
      exact ⟨[], .here _⟩
    | name role relation =>
      obtain rfl := List.mem_singleton.mp h
      exact ⟨[], .here _⟩

theorem Query.visible_subset (q : Query) (step : Step) :
    ∀ m ∈ (Part.query q).visible step, m ∈ q.ctes.map Cte.name := by
  intro m hm
  cases step with
  | cte i =>
    rw [Part.visible] at hm
    split at hm
    · exact hm
    · exact List.map_subset _ (List.take_subset i q.ctes) hm
  | _ => exact hm

/-- An entry of a query is reached past the query's own `WITH` list at most. -/
theorem Query.leads_of_mem_held {q : Query} {p : Part} (h : p ∈ q.held) :
    ∃ path names, Leads (.query q) path names p ∧ ∀ m ∈ names, m ∈ q.ctes.map Cte.name := by
  rw [q.held_eq] at h
  obtain ⟨⟨step, c⟩, hc, hp⟩ := List.mem_flatMap.mp h
  obtain ⟨path, leads⟩ := leads_of_mem_entries hp
  refine ⟨step :: path, _, .step hc leads, ?_⟩
  rw [List.append_nil]
  exact q.visible_subset step

end Tree

namespace Sql

open Ast QueryGateway.Tree

/-! ### Relations that a query draws on -/

/-- A query draws on a relation: it reads it, or a query inside it does, and no entry of a
`WITH` list on the way has its name. -/
inductive Draws (relation : String) : Ast.Query → Prop
  | here {q : Ast.Query} (placed : .name .read relation ∈ q.found.placed)
      (free : ¬ Bound (q.ctes.map Ast.Cte.name) relation) : Draws relation q
  | inside {q r : Ast.Query} (placed : .query r ∈ q.found.placed)
      (free : ¬ Bound (q.ctes.map Ast.Cte.name) relation) (h : Draws relation r) :
      Draws relation q

theorem lowerCtes_names {ctes : List Ast.Cte} {ts : List Tree.Cte}
    (h : lowerCtes ctes = .ok ts) : ts.map Tree.Cte.name = ctes.map Ast.Cte.name := by
  induction ctes generalizing ts with
  | nil =>
    cases h
    rfl
  | cons c rest ih =>
    obtain ⟨name, q, aside⟩ := c
    obtain ⟨t, _, h⟩ := except_bind_eq_ok.mp h
    obtain ⟨others, hothers, h⟩ := except_bind_eq_ok.mp h
    cases h
    rw [List.map_cons, List.map_cons, ih hothers]

theorem lowerQuery_names {q : Ast.Query} {t : Tree.Query} (h : lowerQuery q = .ok t) :
    t.ctes.map Tree.Cte.name = q.ctes.map Ast.Cte.name := by
  obtain ⟨ctes, recursive, body, trailing⟩ := q
  obtain ⟨named, hnamed, h⟩ := except_bind_eq_ok.mp h
  obtain ⟨b, _, h⟩ := except_bind_eq_ok.mp h
  obtain ⟨behind, _, h⟩ := except_bind_eq_ok.mp h
  cases h
  exact lowerCtes_names hnamed

variable {relation : String}

theorem leads_of_draws {q : Ast.Query} (draws : Draws relation q) {t : Tree.Query}
    (lowered : lowerQuery q = .ok t) :
    ∃ path names, Leads (.query t) path names (.name .read relation) ∧ ¬ Bound names relation := by
  induction draws generalizing t with
  | here placed free =>
    obtain ⟨p, hp, lowersTo⟩ := (lowerQuery_paired lowered).exists_of_mem placed
    cases lowersTo
    obtain ⟨path, names, leads, among⟩ := Query.leads_of_mem_held hp
    rw [lowerQuery_names lowered] at among
    exact ⟨path, names, leads, fun bound => free (bound.mono among)⟩
  | inside placed free _ ih =>
    obtain ⟨p, hp, lowersTo⟩ := (lowerQuery_paired lowered).exists_of_mem placed
    cases lowersTo with
    | query lowered' =>
      obtain ⟨path, names, leads, among⟩ := Query.leads_of_mem_held hp
      obtain ⟨path', names', leads', free'⟩ := ih lowered'
      rw [lowerQuery_names lowered] at among
      refine ⟨_, _, leads.append leads', fun bound => ?_⟩
      exact (bound_append.mp bound).elim (fun bound => free (bound.mono among)) free'

/-- What a query of a statement draws on occurs in the statement's tree. -/
theorem occurs_of_draws {s : Ast.Statement} {tree : Tree.Statement}
    (lowered : lowerStatement s = .ok tree) (kind : tree.keepsQueries = true) {q : Ast.Query}
    (placed : .query q ∈ s.found.placed) (draws : Draws relation q) :
    ∃ path, Occurs tree path .read relation := by
  obtain ⟨p, hp, lowersTo⟩ := (lowerStatement_paired lowered kind).exists_of_mem placed
  cases lowersTo with
  | query lowered' =>
    obtain ⟨path, leads⟩ := leads_of_mem_entries (c := .statement tree) hp
    obtain ⟨path', names, leads', free⟩ := leads_of_draws draws lowered'
    exact ⟨_, _, leads.append leads', fun _ => free⟩

end Sql

end QueryGateway
