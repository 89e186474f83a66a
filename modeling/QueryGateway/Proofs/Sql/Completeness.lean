import QueryGateway.Proofs.Relation.Exactness
import QueryGateway.Proofs.Sql.Lowering

/-! Which statements lose nothing on the way to their tree.

A statement is kept if each of its entries stands for exactly one entry of the tree, and
each query in it for one that holds its entries in the same way, down to the innermost
ones. So it is if and only if no query of the statement, nor the statement itself, has
anything aside (`keeps_iff`). Of a statement that is kept every relation is named in the
tree, and so it is extracted. -/
namespace QueryGateway.Sql

open Ast QueryGateway.Tree

/-! ### Kept as a whole -/

/-- An entry stands for a part of a tree with all that is in it: a relation for itself, a
query for the query that it is lowered to, each entry of the one for exactly one of the
other. -/
inductive Whole : Entry → Part → Prop
  | name (role : Role) (relation : String) : Whole (.name role relation) (.name role relation)
  | query {q : Ast.Query} {t : Tree.Query} {pairs : List (Entry × Part)}
      (lowered : lowerQuery q = .ok t) (each : pairs.map Prod.fst = q.found.all)
      (once : (pairs.map Prod.snd).Perm t.held) (whole : ∀ pair ∈ pairs, Whole pair.1 pair.2) :
      Whole (.query q) (.query t)

/-- All of what was found stands in a tree that holds these parts. -/
abbrev Keeps (found : Found) (held : List Part) : Prop := Paired Whole found.all held

/-- Something is aside, right here or in a query further inside. -/
inductive Hides : Found → Prop
  | here {f : Found} (aside : f.aside ≠ []) : Hides f
  | inside {f : Found} {q : Ast.Query} (placed : .query q ∈ f.placed) (h : Hides q.found) : Hides f

/-- A relation is named, right here or in a query further inside. -/
inductive Names : Found → Role → String → Prop
  | here {f : Found} {role : Role} {relation : String} (named : .name role relation ∈ f.all) :
      Names f role relation
  | inside {f : Found} {q : Ast.Query} {role : Role} {relation : String}
      (found : .query q ∈ f.all) (h : Names q.found role relation) : Names f role relation

/-- What has its places and nothing aside is kept, if the queries in it are whole. -/
theorem keeps_of_whole {f : Found} {held : List Part} (lowers : Paired LowersTo f.placed held)
    (nothing : f.aside = [])
    (deeper : ∀ q t, .query q ∈ f.placed → .query t ∈ held → lowerQuery q = .ok t →
      Whole (.query q) (.query t)) : Keeps f held := by
  rw [Keeps, Found.all, nothing, List.append_nil]
  refine lowers.imp ?_
  intro e he p hp lowersTo
  cases lowersTo with
  | name role relation => exact .name role relation
  | query lowered => exact deeper _ _ he hp lowered

theorem aside_eq_nil {f : Found} (shows : ¬ Hides f) : f.aside = [] := by
  cases h : f.aside with
  | nil => rfl
  | cons e rest => exact absurd (.here (by rw [h]; exact List.cons_ne_nil _ _)) shows

theorem whole_of_not_hides {t : Tree.Query} {q : Ast.Query} (lowered : lowerQuery q = .ok t)
    (shows : ¬ Hides q.found) : Whole (.query q) (.query t) := by
  induction t using Tree.Query.inductionHeld generalizing q with
  | h t ih =>
    obtain ⟨pairs, each, once, whole⟩ :=
      keeps_of_whole (lowerQuery_paired lowered) (aside_eq_nil shows)
        fun _ r placed held lowered => ih r held lowered fun hides => shows (.inside placed hides)
    exact .query lowered each once whole

theorem not_hides_of_keeps {f : Found} {held : List Part} (lowers : Paired LowersTo f.placed held)
    (keeps : Keeps f held) : ¬ Hides f := by
  intro hides
  induction hides generalizing held with
  | @here f aside =>
    -- Each part stands for one entry already, so none is left for what is aside.
    have entries : f.placed.length + f.aside.length = held.length := by
      rw [← List.length_append]
      exact keeps.length_eq
    have := lowers.length_eq
    exact aside (List.eq_nil_of_length_eq_zero (by omega))
  | inside placed _ ih =>
    obtain ⟨p, _, whole⟩ := keeps.exists_of_mem (List.mem_append_left _ placed)
    cases whole with
    | query lowered each once whole =>
      exact ih (lowerQuery_paired lowered) ⟨_, each, once, whole⟩

/-- All is kept if and only if nothing is aside. -/
theorem keeps_iff {f : Found} {held : List Part} (lowers : Paired LowersTo f.placed held) :
    Keeps f held ↔ ¬ Hides f := by
  refine ⟨not_hides_of_keeps lowers, fun shows => ?_⟩
  exact keeps_of_whole lowers (aside_eq_nil shows) fun _ _ placed _ lowered =>
    whole_of_not_hides lowered fun hides => shows (.inside placed hides)

/-! ### Joins of an update's target -/

/-- An update is kept only if the joins of its target are conditioned on nothing that counts;
of a deletion these conditions have a place. -/
theorem target_conditions_of_keeps {u : Ast.Update} {t : Tree.Update}
    (lowered : lowerUpdate u = .ok t) (keeps : Keeps u.found (Tree.Statement.update t).held) :
    (exprsFound u.target.conditions).all = [] := by
  have nothing := aside_eq_nil ((keeps_iff (lowerUpdate_paired lowered)).mp keeps)
  obtain ⟨target, source, assignments, condition, returning, aside⟩ := u
  simp only [Ast.Update.found, Found.aside_append, Found.aside_hide, List.append_eq_nil_iff]
    at nothing
  exact nothing.1.2

/-! ### Extracted as a whole -/

/-- What is kept has the relations that it names named in the tree. -/
theorem exists_named {f : Found} {held : List Part} {role : Role} {relation : String}
    (keeps : Keeps f held) (names : Names f role relation) :
    ∃ p ∈ held, p.Has (· = .name role relation) := by
  induction names generalizing held with
  | here named =>
    obtain ⟨p, hp, whole⟩ := keeps.exists_of_mem named
    cases whole
    exact ⟨_, hp, Part.has_self _⟩
  | inside found _ ih =>
    obtain ⟨p, hp, whole⟩ := keeps.exists_of_mem found
    cases whole with
    | query lowered each once whole =>
      obtain ⟨c, hc, has⟩ := ih ⟨_, each, once, whole⟩
      obtain ⟨step, into, reaches⟩ := Tree.Query.amid_of_held _ hc
      exact ⟨_, hp, has_inside.mpr (.inr ⟨step, into, reaches.trans has⟩)⟩

/-- Extraction sees that a role is played: wherever it succeeds, the relation is listed in the
role or as written, unless it is read and a `WITH` list binds it at its place. -/
def Sees (tree : Tree.Statement) (role : Role) (relation : String) : Prop :=
  ∃ path names, Leads (.statement tree) path names (.name role relation) ∧
    ((role = .read ∧ Bound names relation) ∨
      ∀ (policy : Policy) (set : RelationSet), policy.extract tree = .ok set →
        ∃ r ∈ set.references, r.name = relation ∧ (role = .write → r.role = .write))

theorem sees_of_keeps {f : Found} {tree : Tree.Statement} {role : Role} {relation : String}
    (keeps : Keeps f tree.held) (names : Names f role relation) : Sees tree role relation := by
  obtain ⟨p, hp, has⟩ := exists_named keeps names
  obtain ⟨c, hc, reaches⟩ := tree.amid_of_held hp
  have there : (Part.statement tree).Has (· = .name role relation) :=
    has_inside.mpr (.inr ⟨c, hc, reaches.trans has⟩)
  obtain ⟨path, visible, _, leads, rfl⟩ := there
  refine ⟨path, visible, leads, ?_⟩
  by_cases bound : role = .read ∧ Bound visible relation
  · exact .inl bound
  · refine .inr fun policy set extracted => ?_
    have occurs : Occurs tree path role relation :=
      ⟨visible, leads, fun read hidden => bound ⟨read, hidden⟩⟩
    have exact := exact_of_extract extracted
    obtain ⟨r, hr, rfl⟩ := List.mem_map.mp ((exact.mem_names relation).mpr ⟨path, role, occurs⟩)
    refine ⟨r, hr, rfl, ?_⟩
    rintro rfl
    exact (exact.role r hr).mpr ⟨path, occurs⟩

/-! ### What can be computed of a text -/

/-- Whether nothing is aside, looked for as many queries deep as there may be. -/
def shows : Nat → Found → Bool
  | 0, _ => false
  | depth + 1, f => f.aside.isEmpty && f.placed.all fun
    | .name .. => true
    | .query q => shows depth q.found

theorem not_hides_of_shows {depth : Nat} {f : Found} (h : shows depth f = true) : ¬ Hides f := by
  intro hides
  induction hides generalizing depth with
  | here aside =>
    cases depth with
    | zero => cases h
    | succ depth => exact aside (List.isEmpty_iff.mp (Bool.and_eq_true_iff.mp h).1)
  | inside placed _ ih =>
    cases depth with
    | zero => cases h
    | succ depth => exact ih (List.all_eq_true.mp (Bool.and_eq_true_iff.mp h).2 _ placed)

/-- The relations that are named, as many queries deep. -/
def relations : Nat → Found → List (Role × String)
  | 0, _ => []
  | depth + 1, f => f.all.flatMap fun
    | .name role relation => [(role, relation)]
    | .query q => relations depth q.found

theorem names_of_mem {depth : Nat} {f : Found} {role : Role} {relation : String}
    (h : (role, relation) ∈ relations depth f) : Names f role relation := by
  induction depth generalizing f with
  | zero => cases h
  | succ depth ih =>
    obtain ⟨e, he, h⟩ := List.mem_flatMap.mp h
    cases e with
    | name role' relation' =>
      cases List.mem_singleton.mp h
      exact .here he
    | query q => exact .inside he (ih h)

/-- Whether a text is one statement that passes a test with its tree. -/
def passes (text : String) (test : Ast.Statement → Tree.Statement → Bool) : Bool :=
  match read text.toList, parse text with
  | some [s], .ok tree => test s tree
  | _, _ => false

theorem exists_of_passes {text : String} {test : Ast.Statement → Tree.Statement → Bool}
    (h : passes text test = true) :
    ∃ s tree, read text.toList = some [s] ∧ parse text = .ok tree ∧ test s tree = true := by
  unfold passes at h
  split at h
  · exact ⟨_, _, ‹_›, ‹_›, h⟩
  · cases h

/-! ### Texts -/

/-- **Lowering loses nothing but what is aside**: of a text that is a query, a change of data
or a creation, every query stands in the tree exactly once, in the query that is next around
it, if and only if neither the statement nor a query in it has anything aside; and then
extraction sees every relation that is named in it. -/
theorem parse_keeps_iff {text : String} {tree : Tree.Statement} (parsed : parse text = .ok tree)
    (kind : tree.keepsQueries = true) :
    ∃ s, read text.toList = some [s] ∧ (Keeps s.found tree.held ↔ ¬ Hides s.found) ∧
      (Keeps s.found tree.held →
        ∀ role relation, Names s.found role relation → Sees tree role relation) := by
  obtain ⟨s, hread, lowered⟩ := parse_eq_ok parsed
  exact ⟨s, hread, keeps_iff (lowerStatement_paired lowered kind),
    fun keeps _ _ names => sees_of_keeps keeps names⟩

/-- An insertion with a query in a query, all in their places. -/
def nestedInsertion : String := "INSERT INTO t SELECT (SELECT a FROM v)"

theorem nestedInsertion_passes :
    passes nestedInsertion (fun s tree => tree.keepsQueries &&
      (shows 4 s.found && (relations 4 s.found).contains (.read, "v"))) = true := by
  decide +kernel

theorem nestedInsertion_keeps : ∃ tree, parse nestedInsertion = .ok tree ∧
    tree.keepsQueries = true ∧ ∃ s, read nestedInsertion.toList = some [s] ∧
      Keeps s.found tree.held ∧ Names s.found .read "v" ∧ Sees tree .read "v" := by
  obtain ⟨s, tree, hread, parsed, passed⟩ := exists_of_passes nestedInsertion_passes
  obtain ⟨kind, passed⟩ := Bool.and_eq_true_iff.mp passed
  obtain ⟨nothing, named⟩ := Bool.and_eq_true_iff.mp passed
  have names : Names s.found .read "v" := names_of_mem (List.contains_iff_mem.mp named)
  obtain ⟨s', hread', keeps, sees⟩ := parse_keeps_iff parsed kind
  cases hread.symm.trans hread'
  have kept := keeps.mpr (not_hides_of_shows nothing)
  exact ⟨tree, parsed, kind, s, hread, kept, names, sees kept _ _ names⟩

/-- An update whose target is joined on a query. -/
def joinedUpdate : String := "UPDATE t JOIN u ON t.id = (SELECT id FROM secret) SET a = 1"

theorem joinedUpdate_passes :
    passes joinedUpdate (fun s tree => tree.keepsQueries &&
      (decide (tree.held.length < s.found.all.length) &&
        ((relations 4 s.found).contains (.read, "secret") &&
          match ({} : Policy).extract tree with
          | .ok set => !set.names.contains "secret"
          | .error _ => false))) = true := by
  decide +kernel

/-- The query that the target of an update is joined on is lost, and what it reads with it. -/
theorem joined_target_loses_query : ∃ s tree, read joinedUpdate.toList = some [s] ∧
    parse joinedUpdate = .ok tree ∧ tree.keepsQueries = true ∧ ¬ Keeps s.found tree.held ∧
    Names s.found .read "secret" ∧
    ∃ set, ({} : Policy).extract tree = .ok set ∧ "secret" ∉ set.names := by
  obtain ⟨s, tree, hread, parsed, passed⟩ := exists_of_passes joinedUpdate_passes
  obtain ⟨kind, passed⟩ := Bool.and_eq_true_iff.mp passed
  obtain ⟨fewer, passed⟩ := Bool.and_eq_true_iff.mp passed
  obtain ⟨named, unseen⟩ := Bool.and_eq_true_iff.mp passed
  refine ⟨s, tree, hread, parsed, kind, ?_, names_of_mem (List.contains_iff_mem.mp named), ?_⟩
  · intro keeps
    exact absurd keeps.length_eq (Nat.ne_of_gt (of_decide_eq_true fewer))
  · split at unseen
    · refine ⟨_, ‹_›, fun found => ?_⟩
      rw [List.contains_iff_mem.mpr found] at unseen
      cases unseen
    · cases unseen

end QueryGateway.Sql
