import QueryGateway.Proofs.Sql.Completeness
import QueryGateway.Proofs.Sql.Placement
import QueryGateway.Proofs.Tree.Section

/-! Which statements stand inside queries.

A statement below the root of a tree stands for the body of a query. Every query of a tree
comes from one that the grammar has read (`Descends`), and of the bodies that the grammar reads
only insertions, updates and commands become statements (`statement_of_lowerBody`). So nothing
is created, altered or dropped inside a query, and what is done with the root decides
(`definitions_at_root`). -/
namespace QueryGateway

namespace Tree

/-! ### Statements below the root -/

/-- The statements that stand for a body, or for a side of it. -/
def Body.statements : Body → List Statement
  | .modify s => [s]
  | .setOperation _ left right => left.statements ++ right.statements
  | _ => []

/-- A statement stands for the body of a query somewhere in a part. -/
def Part.HasInner (p : Part) (s : Statement) : Prop := p.Has (· = .body (.modify s))

variable {p q : Part} {path : Path} {names : List String} {s : Statement}

theorem Leads.statement_cases (h : Leads p path names q) (hq : q = .statement s) :
    p = .statement s ∨ p.HasInner s := by
  induction h with
  | here p => exact .inl hq
  | step into _ ih =>
    refine .inr ?_
    rcases ih hq with rfl | inner
    · cases Part.within_of_mem into
      exact Part.has_self _
    · exact has_inside.mpr (.inr ⟨_, into, inner⟩)

/-- A statement stands for a body that belongs to a query. -/
theorem Leads.inner_cases (h : Leads p path names q) (hq : q = .body (.modify s)) :
    (∃ b, p = .body b ∧ s ∈ b.statements) ∨
      ∃ r, p.Has (· = .query r) ∧ s ∈ r.body.statements := by
  induction h with
  | here p => exact .inl ⟨_, hq, by simp [Body.statements]⟩
  | step into _ ih =>
    rcases ih hq with ⟨b, rfl, hs⟩ | ⟨r, has, hs⟩
    · cases Part.within_of_mem into with
      | body => exact .inr ⟨_, Part.has_self _, hs⟩
      | left =>
        refine .inl ⟨_, rfl, ?_⟩
        rw [Body.statements]
        exact List.mem_append_left _ hs
      | right =>
        refine .inl ⟨_, rfl, ?_⟩
        rw [Body.statements]
        exact List.mem_append_right _ hs
    · exact .inr ⟨r, has_inside.mpr (.inr ⟨_, into, has⟩), hs⟩

/-- What passes from each query to those that it holds, and is true of the queries among the
entries of a part, is true of all queries in the part. -/
theorem Part.forall_query {Good : Query → Prop}
    (passes : ∀ q, Good q → ∀ r, .query r ∈ q.held → Good r)
    (entries : ∀ r, .query r ∈ p.entries → Good r) {r : Query} (has : p.Has (· = .query r)) :
    Good r := by
  obtain ⟨path, names, _, leads, rfl⟩ := has
  generalize same : Part.query r = found at leads
  induction leads with
  | here p =>
    subst same
    exact entries r (List.mem_singleton_self _)
  | @step p c _ step _ _ into _ ih =>
    refine ih (fun r hr => ?_) same
    have inside : .query r ∈ entriesInside p.inside := List.mem_flatMap.mpr ⟨_, into, hr⟩
    cases p with
    | statement s =>
      rw [Part.inside, ← s.held_eq] at inside
      exact entries r inside
    | query q =>
      rw [Part.inside, ← q.held_eq] at inside
      exact passes q (entries q (List.mem_singleton_self _)) r inside
    | body b =>
      rw [Part.inside, ← b.held_eq] at inside
      exact entries r inside
    | item role i =>
      rw [Part.inside, ← i.held_eq] at inside
      exact entries r inside
    | name _ _ => cases into

theorem Query.inside_eq (q : Query) :
    q.inside = numbered .cte (fun c => .query c.query) q.ctes ++ (.body, .body q.body)
      :: numbered .trailing .query q.trailing := by
  cases q
  rfl

theorem hasInner_of_cte {q : Query} {c : Cte} (listed : c ∈ q.ctes)
    (body : c.query.body = .modify s) : (Part.statement (.query q)).HasInner s := by
  obtain ⟨k, hk⟩ := List.getElem?_of_mem listed
  have entry : (Step.cte k, Part.query c.query) ∈ q.inside := by
    rw [q.inside_eq]
    exact List.mem_append_left _ (mem_numbered.mpr ⟨k, c, hk, rfl, rfl⟩)
  have inner : (Step.body, Part.body (.modify s)) ∈ c.query.inside := by
    rw [c.query.inside_eq, body]
    exact List.mem_append_right _ (List.mem_cons_self ..)
  exact ⟨_, _, _, .step (List.mem_singleton_self _) (.step entry (.step inner (.here _))), rfl⟩

/-! ### Sections of definitions -/

/-- The section of a statement that creates, alters or drops something. -/
def Statement.definition? : Statement → Option Section
  | .create _ => some .create
  | .drop _ => some .drop
  | .alter _ => some .alter
  | _ => none

/-- These two rejections are decided by the kind of a statement alone. -/
theorem Statement.classify_eq_rejected :
    (s.classify = .error .drop ↔ ∃ object, s = .drop object) ∧
      (s.classify = .error .alter ↔ ∃ object, s = .alter object) := by
  cases s with
  | query q =>
    obtain ⟨operation, accepted⟩ : ∃ operation, (Statement.query q).classify = .ok operation := by
      rw [classify]
      split
      · exact ⟨_, rfl⟩
      · split <;> exact ⟨_, rfl⟩
    simp [accepted]
  | create c =>
    obtain ⟨kind, _, _⟩ := c
    cases kind <;> simp [classify]
  | _ => simp [classify]

/-- The sections of such statements. -/
def Section.isDefinition : Section → Bool
  | .create | .drop | .alter => true
  | _ => false

theorem mem_own_iff_definition {c : Part} {sec : Section} (definition : sec.isDefinition = true) :
    sec ∈ c.own ↔ ∃ s, c = .statement s ∧ s.definition? = some sec := by
  have source (items : List Item) : sec ∉ sourceSection items := by
    unfold sourceSection
    split
    · exact List.not_mem_nil
    · intro listed
      rw [List.mem_singleton.mp listed] at definition
      cases definition
  cases c with
  | statement s =>
    cases s with
    | update u => cases sec <;> simp_all [Part.own, Statement.definition?, Section.isDefinition]
    | create c =>
      obtain ⟨kind, _, _⟩ := c
      cases kind <;> cases sec <;>
        simp_all [Part.own, CreatedKind.sections, Statement.definition?, Section.isDefinition]
    | _ => cases sec <;> simp_all [Part.own, Statement.definition?, Section.isDefinition]
  | body b =>
    cases b <;> cases sec <;> simp_all [Part.own, Section.isDefinition]
  | query _ => simp [Part.own]
  | item _ _ => simp [Part.own]
  | name _ _ => simp [Part.own]

theorem Statement.mem_sections_iff_definition {sec : Section}
    (definition : sec.isDefinition = true)
    (inner : ∀ t, (Part.statement s).HasInner t → t.definition? = none) :
    sec ∈ s.sections ↔ s.definition? = some sec := by
  rw [s.mem_sections]
  constructor
  · intro found
    obtain ⟨path, names, c, leads, own⟩ := found
    obtain ⟨t, rfl, ht⟩ := (mem_own_iff_definition definition).mp own
    rcases leads.statement_cases rfl with same | below
    · cases same
      exact ht
    · rw [inner t below] at ht
      cases ht
  · intro root
    exact ⟨[], [], _, .here _, (mem_own_iff_definition definition).mpr ⟨s, rfl, root⟩⟩

end Tree

namespace Sql

open Ast

/-! ### Commands -/

/-- The commands that stand for a body, or for a side of it. -/
def Ast.Body.commands : Ast.Body → List String
  | .command keyword _ => [keyword]
  | .setOperation _ left right => left.commands ++ right.commands
  | _ => []

/-- A command stands for the body of a query that has a place, right here or further inside. -/
inductive Commands : Found → String → Prop
  | here {f : Found} {q : Ast.Query} {keyword : String} (placed : .query q ∈ f.placed)
      (command : keyword ∈ q.body.commands) : Commands f keyword
  | inside {f : Found} {q : Ast.Query} {keyword : String} (placed : .query q ∈ f.placed)
      (h : Commands q.found keyword) : Commands f keyword

/-- A body becomes a statement if it inserts, updates or is a command. -/
theorem statement_of_lowerBody {b : Ast.Body} {t : Tree.Body} (h : lowerBody b = .ok t)
    {s : Tree.Statement} (hs : s ∈ t.statements) :
    (∃ i, s = .insert i) ∨ (∃ u, s = .update u) ∨ ∃ keyword ∈ b.commands, s = .other keyword := by
  cases b with
  | select select =>
    obtain ⟨projection, into, source, conditions⟩ := select
    obtain ⟨before, _, h⟩ := except_bind_eq_ok.mp h
    obtain ⟨⟨items, among⟩, _, h⟩ := except_bind_eq_ok.mp h
    obtain ⟨after, _, h⟩ := except_bind_eq_ok.mp h
    cases h
    cases hs
  | nested q =>
    obtain ⟨t, _, h⟩ := except_bind_eq_ok.mp h
    cases h
    cases hs
  | setOperation op left right =>
    obtain ⟨l, hleft, h⟩ := except_bind_eq_ok.mp h
    obtain ⟨r, hright, h⟩ := except_bind_eq_ok.mp h
    cases h
    rw [Tree.Body.statements] at hs
    rw [Ast.Body.commands]
    rcases List.mem_append.mp hs with hs | hs
    · refine (statement_of_lowerBody hleft hs).imp_right (.imp_right ?_)
      exact fun ⟨keyword, command, same⟩ => ⟨keyword, List.mem_append_left _ command, same⟩
    · refine (statement_of_lowerBody hright hs).imp_right (.imp_right ?_)
      exact fun ⟨keyword, command, same⟩ => ⟨keyword, List.mem_append_right _ command, same⟩
  | values rows =>
    obtain ⟨embedded, _, h⟩ := except_bind_eq_ok.mp h
    cases h
    cases hs
  | table name =>
    cases h
    cases hs
  | insert i =>
    obtain ⟨t, _, h⟩ := except_bind_eq_ok.mp h
    cases h
    exact .inl ⟨t, List.mem_singleton.mp hs⟩
  | update u =>
    obtain ⟨t, _, h⟩ := except_bind_eq_ok.mp h
    cases h
    exact .inr (.inl ⟨t, List.mem_singleton.mp hs⟩)
  | delete => cases h
  | merge => cases h
  | command keyword source =>
    cases h
    exact .inr (.inr ⟨keyword, List.mem_singleton_self _, List.mem_singleton.mp hs⟩)

/-! ### Queries of a tree -/

/-- A query of a tree comes from one among what was found, or further inside: its commands are
among those that are found there. -/
def Descends (f : Found) (t : Tree.Query) : Prop :=
  ∃ q, lowerQuery q = .ok t ∧ (∀ keyword ∈ q.body.commands, Commands f keyword) ∧
    ∀ keyword, Commands q.found keyword → Commands f keyword

variable {f : Found} {held : List Tree.Part} {t : Tree.Query}

theorem descends_of_held (lowers : Paired LowersTo f.placed held) (ht : .query t ∈ held) :
    Descends f t := by
  obtain ⟨e, placed, lowersTo⟩ := lowers.exists_of_mem_right ht
  cases lowersTo with
  | query lowered =>
    exact ⟨_, lowered, fun _ => .here placed, fun _ => .inside placed⟩

theorem Descends.deeper (h : Descends f t) {r : Tree.Query} (hr : .query r ∈ t.held) :
    Descends f r := by
  obtain ⟨q, lowered, _, deeper⟩ := h
  obtain ⟨q', lowered', commands, deeper'⟩ := descends_of_held (lowerQuery_paired lowered) hr
  exact ⟨q', lowered', fun keyword command => deeper keyword (commands keyword command),
    fun keyword inside => deeper keyword (deeper' keyword inside)⟩

theorem Descends.statement (h : Descends f t) {s : Tree.Statement} (hs : s ∈ t.body.statements) :
    (∃ i, s = .insert i) ∨ (∃ u, s = .update u) ∨
      ∃ keyword, s = .other keyword ∧ Commands f keyword := by
  obtain ⟨⟨ctes, recursive, body, trailing⟩, lowered, commands, _⟩ := h
  obtain ⟨_, _, lowered⟩ := except_bind_eq_ok.mp lowered
  obtain ⟨b, hbody, lowered⟩ := except_bind_eq_ok.mp lowered
  obtain ⟨_, _, lowered⟩ := except_bind_eq_ok.mp lowered
  cases lowered
  refine (statement_of_lowerBody hbody hs).imp_right (.imp_right ?_)
  exact fun ⟨keyword, command, same⟩ => ⟨keyword, same, commands keyword command⟩

/-! ### Statements inside queries -/

section Lowered

variable {s : Ast.Statement} {tree inner : Tree.Statement} (lowered : lowerStatement s = .ok tree)
include lowered

theorem descends_of_lowerStatement {t : Tree.Query} (ht : .query t ∈ tree.held) :
    Descends s.found t := by
  cases keeps : tree.keepsQueries with
  | true => exact descends_of_held (lowerStatement_paired lowered keeps) ht
  | false =>
    cases tree with
    | drop _ => cases ht
    | alter _ => cases ht
    | other _ => cases ht
    | _ => cases keeps

/-- What stands inside a query inserts, updates or is a command. -/
theorem inner_statement_cases (has : (Tree.Part.statement tree).HasInner inner) :
    (∃ i, inner = .insert i) ∨ (∃ u, inner = .update u) ∨
      ∃ keyword, inner = .other keyword ∧ Commands s.found keyword := by
  obtain ⟨path, names, c, leads, hc⟩ := has
  rcases leads.inner_cases hc with ⟨_, ⟨⟩, _⟩ | ⟨r, has, hs⟩
  have descends : Descends s.found r :=
    Tree.Part.forall_query (fun _ h _ => Descends.deeper h)
      (fun _ => descends_of_lowerStatement lowered) has
  exact descends.statement hs

theorem inner_definition_eq_none (has : (Tree.Part.statement tree).HasInner inner) :
    inner.definition? = none := by
  rcases inner_statement_cases lowered has with ⟨i, rfl⟩ | ⟨u, rfl⟩ | ⟨keyword, rfl, _⟩
  · rfl
  · rfl
  · rfl

theorem name_of_creation {object : String} {name : Option String} {queries : List Tree.Query}
    (has : (Tree.Part.statement tree).Has
      (· = .statement (.create ⟨.other object, name, queries⟩))) :
    name = none := by
  obtain ⟨path, names, c, leads, hc⟩ := has
  rcases leads.statement_cases hc with same | inner
  · cases same
    cases s with
    | createOther object parts =>
      obtain ⟨queries, _, lowered⟩ := except_bind_eq_ok.mp lowered
      cases lowered
      rfl
    | drop _ _ => cases lowered
    | alter _ _ => cases lowered
    | other _ _ => cases lowered
    | _ =>
      obtain ⟨_, _, lowered⟩ := except_bind_eq_ok.mp lowered
      cases lowered
  · cases inner_definition_eq_none lowered inner

/-- Whether a statement creates, alters or drops something is decided at the root: its sections
tell nothing else, nor does its classification. -/
structure DefinitionsAtRoot (tree : Tree.Statement) : Prop where
  drop : .drop ∈ tree.sections ↔ ∃ object, tree = .drop object
  alter : .alter ∈ tree.sections ↔ ∃ object, tree = .alter object
  create : .create ∈ tree.sections ↔ ∃ creation, tree = .create creation
  dropRejected : tree.classify = .error .drop ↔ .drop ∈ tree.sections
  alterRejected : tree.classify = .error .alter ↔ .alter ∈ tree.sections

theorem definitionsAtRoot : DefinitionsAtRoot tree := by
  have root {sec : Tree.Section} (definition : sec.isDefinition = true) :
      sec ∈ tree.sections ↔ tree.definition? = some sec :=
    Tree.Statement.mem_sections_iff_definition definition
      fun _ => inner_definition_eq_none lowered
  have drop : .drop ∈ tree.sections ↔ ∃ object, tree = .drop object :=
    (root rfl).trans (by cases tree <;> simp [Tree.Statement.definition?])
  have alter : .alter ∈ tree.sections ↔ ∃ object, tree = .alter object :=
    (root rfl).trans (by cases tree <;> simp [Tree.Statement.definition?])
  obtain ⟨dropped, altered⟩ := Tree.Statement.classify_eq_rejected (s := tree)
  exact {
    drop
    alter
    create := (root rfl).trans (by cases tree <;> simp [Tree.Statement.definition?])
    dropRejected := dropped.trans drop.symm
    alterRejected := altered.trans alter.symm }

end Lowered

/-- **Nothing is created, altered or dropped inside a query.** In the tree of a text, whatever
stands for the body of a query inserts or updates, unless it is a command that the grammar reads
in place of an insertion. What creates something that is no view and no table names nothing. So
definitions show in the sections, and are rejected, for the root alone. -/
theorem no_definition_inside {text : String} {tree : Tree.Statement}
    (parsed : parse text = .ok tree) :
    ∃ s, read text.toList = some [s] ∧
      ((∀ keyword, ¬ Commands s.found keyword) →
        ∀ inner, (Tree.Part.statement tree).HasInner inner →
          (∃ i, inner = .insert i) ∨ ∃ u, inner = .update u) ∧
      (∀ inner, (Tree.Part.statement tree).HasInner inner →
        (∃ i, inner = .insert i) ∨ (∃ u, inner = .update u) ∨
          ∃ keyword, inner = .other keyword ∧ Commands s.found keyword) ∧
      (∀ object name queries, (Tree.Part.statement tree).Has
        (· = .statement (.create ⟨.other object, name, queries⟩)) → name = none) ∧
      DefinitionsAtRoot tree := by
  obtain ⟨s, hread, lowered⟩ := parse_eq_ok parsed
  refine ⟨s, hread, fun plain inner has => ?_, fun inner => inner_statement_cases lowered,
    fun _ _ _ => name_of_creation lowered, definitionsAtRoot lowered⟩
  refine (inner_statement_cases lowered has).imp_right (Or.resolve_right · ?_)
  exact fun ⟨keyword, _, command⟩ => plain keyword command

/-! ### A text -/

/-- Whether no command is found, looked for as many queries deep as there may be. -/
def commandless : Nat → Found → Bool
  | 0, _ => false
  | depth + 1, f => f.placed.all fun
    | .name .. => true
    | .query q => q.body.commands.isEmpty && commandless depth q.found

theorem not_commands_of_commandless {depth : Nat} {f : Found} {keyword : String}
    (h : commandless depth f = true) : ¬ Commands f keyword := by
  intro commands
  induction commands generalizing depth with
  | here placed command =>
    cases depth with
    | zero => cases h
    | succ depth =>
      have none := (Bool.and_eq_true_iff.mp (List.all_eq_true.mp h _ placed)).1
      rw [List.isEmpty_iff.mp none] at command
      cases command
  | inside placed _ ih =>
    cases depth with
    | zero => cases h
    | succ depth => exact ih (Bool.and_eq_true_iff.mp (List.all_eq_true.mp h _ placed)).2

/-- The insertion that the only entry of a query's `WITH` list stands for. -/
def onlyInsertion : Tree.Statement → Option Tree.Insert
  | .query ⟨[⟨_, ⟨_, _, .modify (.insert i), _⟩⟩], _, _, _⟩ => some i
  | _ => none

theorem hasInner_of_onlyInsertion {tree : Tree.Statement} {i : Tree.Insert}
    (h : onlyInsertion tree = some i) : (Tree.Part.statement tree).HasInner (.insert i) := by
  unfold onlyInsertion at h
  split at h
  · cases h
    exact Tree.hasInner_of_cte (List.mem_singleton_self _) rfl
  · cases h

/-- An insertion whose rows a query reads. -/
def returnedRows : String := "WITH w AS (INSERT INTO t VALUES (1) RETURNING a) SELECT a FROM w"

theorem returnedRows_passes :
    passes returnedRows (fun s tree => commandless 4 s.found && (onlyInsertion tree).isSome) =
      true := by
  decide +kernel

theorem returnedRows_defines_nothing : ∃ tree, parse returnedRows = .ok tree ∧
    (∃ i, (Tree.Part.statement tree).HasInner (.insert i)) ∧ DefinitionsAtRoot tree ∧
    ∀ inner, (Tree.Part.statement tree).HasInner inner →
      (∃ i, inner = .insert i) ∨ ∃ u, inner = .update u := by
  obtain ⟨s, tree, hread, parsed, passed⟩ := exists_of_passes returnedRows_passes
  obtain ⟨none, inserts⟩ := Bool.and_eq_true_iff.mp passed
  obtain ⟨i, hi⟩ := Option.isSome_iff_exists.mp inserts
  obtain ⟨s', hread', changes, _, _, root⟩ := no_definition_inside parsed
  cases hread.symm.trans hread'
  exact ⟨tree, parsed, ⟨i, hasInner_of_onlyInsertion hi⟩, root,
    changes fun _ => not_commands_of_commandless none⟩

end Sql

end QueryGateway
