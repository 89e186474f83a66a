import QueryGateway.Proofs.Account.Ruling

/-! Relations that are named with their database.

The policy looks at the last two segments of a name, so the database in front of a schema and
a table plays no part there. Accounts look a name up as a whole: none of their entries has
three segments, so with the database in front a relation has the default access
(`accessFor_inDatabase`), whatever access it has by itself. -/
namespace QueryGateway

/-- A relation's name with that of its database in front. -/
def inDatabase (database relation : String) : String := database ++ "." ++ relation

/-- A question about the same relation, named with its database. -/
def Question.inDatabase (database : String) (q : Question) : Question :=
  { q with relation := QueryGateway.inDatabase database q.relation }

/-! ### Lookups -/

/-- How many dots a name has. -/
def dots (name : String) : Nat := name.toList.count '.'

theorem dots_toLower (name : String) : dots name.toLower = dots name := by
  rw [dots, dots, toList_toLower, List.count_eq_countP, List.count_eq_countP, List.countP_map]
  congr 1
  funext c
  exact Bool.eq_iff_iff.mpr (by simp [toLower_eq_dot])

theorem dots_inDatabase (database relation : String) :
    dots (inDatabase database relation) = dots database + dots relation + 1 := by
  simp [dots, inDatabase, List.count_append]
  omega

/-- A name is looked up with a dot in it, and with no other change to its dots. -/
theorem dots_qualified (name : String) : dots (qualified name) = max 1 (dots name) := by
  by_cases dot : '.' ∈ name.toList
  · have some : 0 < dots name := List.count_pos_iff.mpr dot
    rw [qualified_of_dot dot, dots_toLower]
    omega
  · have zero : dots name = 0 := List.count_eq_zero.mpr dot
    have joined : dots ("public." ++ name.toLower) = dots name.toLower + 1 := by
      simp [dots]
    rw [qualified_of_dotless dot, joined, dots_toLower, zero]
    rfl

/-- No entry of at most two segments is found for a name of three or more. -/
theorem lookupRelation_eq_none {α : Type} {table : List (String × α)} {relation : String}
    (keys : ∀ entry ∈ table, dots entry.1 ≤ 1) (deep : 1 < dots relation) :
    lookupRelation table relation = none := by
  rw [lookupRelation, Option.map_eq_none_iff, List.find?_eq_none]
  intro entry member same
  have := congrArg dots (of_decide_eq_true same)
  rw [dots_qualified, dots_qualified] at this
  have := keys entry member
  omega

/-! ### Rulings -/

theorem AccessLevel.ofName?_name (l : AccessLevel) : ofName? l.name = some l := by
  cases l <;> rfl

/-- Two verdicts that differ in their messages at most. -/
structure SameRuling (v w : Verdict) : Prop where
  success : v.success = w.success
  code : v.code = w.code
  details : v.details = w.details

namespace Account

/-! ### Two relations -/

section Comparison

variable {env : Environment} {name : String} {a : Account} {q : Question} {other : String}

/-- What is allowed for two relations of one level is allowed with the same verdict. -/
theorem authorize_eq_of_level (admitted : a.admits env q = true)
    (admitted' : a.admits env { q with relation := other } = true)
    (level : a.accessFor other = a.accessFor q.relation) :
    a.authorize env name { q with relation := other } = a.authorize env name q := by
  generalize there : ({ q with relation := other } : Question) = q' at admitted' ⊢
  have level' : a.accessFor q'.relation = a.accessFor q.relation := by rw [← there, level]
  have require : q'.requireWrite = q.requireWrite := by rw [← there]
  have granted : grant (a.accessFor q.relation) q' = grant (a.accessFor q.relation) q := by
    rw [← there]
    rfl
  have caller : session name q' = session name q := by
    rw [← there]
    rfl
  rw [admits, Bool.or_eq_true, Bool.not_eq_true'] at admitted admitted'
  cases needed : (a.accessFor q.relation).needsKey q.requireWrite with
  | false =>
    have needed' : (a.accessFor q'.relation).needsKey q'.requireWrite = false := by
      rw [level', require, needed]
    rw [authorize_of_open _ _ _ _ needed, authorize_of_open _ _ _ _ needed', level', granted]
  | true =>
    have needed' : (a.accessFor q'.relation).needsKey q'.requireWrite = true := by
      rw [level', require, needed]
    rw [authorize_of_covers _ _ _ _ needed (admitted.resolve_left (by simp [needed])),
      authorize_of_covers _ _ _ _ needed' (admitted'.resolve_left (by simp [needed'])), level',
      granted, caller]

theorem sameRuling_iff_admits :
    SameRuling (a.authorize env name { q with relation := other }) (a.authorize env name q) ↔
      a.admits env { q with relation := other } = a.admits env q ∧
        (a.admits env q = true → a.accessFor other = a.accessFor q.relation) := by
  constructor
  · intro same
    have alike : a.admits env { q with relation := other } = a.admits env q := by
      rw [← authorize_success env name, ← authorize_success env name]
      exact same.success
    refine ⟨alike, fun admitted => ?_⟩
    obtain ⟨_, _, level⟩ := authorize_of_admits env name a q admitted
    obtain ⟨_, _, level'⟩ := authorize_of_admits env name a _ (alike.trans admitted)
    rw [same.details, level, Option.some.injEq, Json.string.injEq] at level'
    rw [← Option.some.injEq, ← AccessLevel.ofName?_name, ← level', AccessLevel.ofName?_name]
  · intro h
    obtain ⟨alike, level⟩ := h
    cases admitted : a.admits env q with
    | true =>
      rw [authorize_eq_of_level admitted (alike.trans admitted) (level admitted)]
      exact ⟨rfl, rfl, rfl⟩
    | false =>
      obtain ⟨message, denied⟩ := authorize_of_not_admits env name a q admitted
      obtain ⟨message', denied'⟩ := authorize_of_not_admits env name a _ (alike.trans admitted)
      rw [denied, denied']
      exact ⟨rfl, rfl, rfl⟩

/-- Two relations are ruled alike exactly in two cases. Either they have one level, and where
that asks for a key the credentials cover both or neither; or both levels ask for a key, and
the credentials cover neither. -/
theorem sameRuling_iff :
    SameRuling (a.authorize env name { q with relation := other }) (a.authorize env name q) ↔
      (a.accessFor q.relation = a.accessFor other ∧
        ((a.accessFor other).needsKey q.requireWrite = true →
          a.covers env { q with relation := other } = a.covers env q)) ∨
      ((a.accessFor q.relation).needsKey q.requireWrite = true ∧
        (a.accessFor other).needsKey q.requireWrite = true ∧
        a.covers env q = false ∧ a.covers env { q with relation := other } = false) := by
  rw [sameRuling_iff_admits, admits, admits]
  generalize a.covers env { q with relation := other } = covered'
  generalize a.covers env q = covered
  by_cases same : a.accessFor q.relation = a.accessFor other
  · rw [same]
    cases (a.accessFor other).needsKey q.requireWrite <;> cases covered <;> cases covered' <;> simp
  · have different : ¬ a.accessFor other = a.accessFor q.relation := fun h => same h.symm
    generalize (a.accessFor q.relation).needsKey q.requireWrite = needed
    generalize (a.accessFor other).needsKey q.requireWrite = needed'
    cases needed <;> cases needed' <;> cases covered <;> cases covered' <;> simp [same, different]

end Comparison

/-! ### The database in front -/

section Database

variable {a : Account} {database : String}

/-- A relation that is named with its database has the default access. -/
theorem accessFor_inDatabase (keys : ∀ entry ∈ a.relations, dots entry.1 ≤ 1) {relation : String}
    (one : dots relation = 1) :
    a.accessFor (inDatabase database relation) = a.defaultAccess := by
  have deep : 1 < dots (inDatabase database relation) := by
    rw [dots_inDatabase]
    omega
  rw [accessFor, lookupRelation_eq_none keys deep]
  rfl

/-- **The policy does not look at the database in front of a relation; an account rules alike
with it and without it exactly in two cases.** Either the relation has the default access by
itself, and where that asks for a key the credentials cover both names or neither; or a key
is needed for the relation and by default, and the credentials cover neither name. -/
theorem sameRuling_inDatabase_iff (p : Policy) (env : Environment) (name : String) {q : Question}
    (keys : ∀ entry ∈ a.relations, dots entry.1 ≤ 1) (one : dots q.relation = 1) :
    p.forbids (inDatabase database q.relation) = p.forbids q.relation ∧
      (SameRuling (a.authorize env name (q.inDatabase database)) (a.authorize env name q) ↔
        (a.accessFor q.relation = a.defaultAccess ∧
          (a.defaultAccess.needsKey q.requireWrite = true →
            a.covers env (q.inDatabase database) = a.covers env q)) ∨
        ((a.accessFor q.relation).needsKey q.requireWrite = true ∧
          a.defaultAccess.needsKey q.requireWrite = true ∧
          a.covers env q = false ∧ a.covers env (q.inDatabase database) = false)) := by
  have dotted : '.' ∈ q.relation.toList := List.count_pos_iff.mp (by rw [dots] at one; omega)
  refine ⟨p.forbids_behind dotted, ?_⟩
  rw [Question.inDatabase, sameRuling_iff, accessFor_inDatabase keys one]

/-- Owners, out of reach without a key, in an account that asks for none by default. -/
def guardedOwners : Account := { relations := [("public.owners", .guarded)] }

/-- The question whether anyone may read the owners. -/
def ownersRead : Question := ⟨"public.owners", {}, false, []⟩

/-- With the database in front, the owners are read without a key. -/
theorem guardedOwners_open_inDatabase :
    (∀ entry ∈ guardedOwners.relations, dots entry.1 ≤ 1) ∧ dots ownersRead.relation = 1 ∧
      dots "db" = 0 ∧
      (guardedOwners.authorize (fun _ => none) "demo" ownersRead).success = false ∧
      (guardedOwners.authorize (fun _ => none) "demo" (ownersRead.inDatabase "db")).success = true ∧
      ¬ SameRuling (guardedOwners.authorize (fun _ => none) "demo" (ownersRead.inDatabase "db"))
        (guardedOwners.authorize (fun _ => none) "demo" ownersRead) := by
  have denied : (guardedOwners.authorize (fun _ => none) "demo" ownersRead).success = false := by
    decide +kernel
  have allowed : (guardedOwners.authorize (fun _ => none) "demo"
      (ownersRead.inDatabase "db")).success = true := by
    decide +kernel
  refine ⟨by decide, by decide, by decide, denied, allowed, fun same => ?_⟩
  exact absurd (allowed.symm.trans (same.success.trans denied)) (by decide)

/-- An account that guards every relation by default denies the owners under both names. -/
theorem guardedByDefault_sameRuling :
    ({} : Policy).forbids (inDatabase "db" ownersRead.relation) =
        ({} : Policy).forbids ownersRead.relation ∧
      SameRuling (Account.authorize (fun _ => none) "demo" { defaultAccess := .guarded }
          (ownersRead.inDatabase "db"))
        (Account.authorize (fun _ => none) "demo" { defaultAccess := .guarded } ownersRead) := by
  have ruled : ({} : Policy).forbids (inDatabase "db" ownersRead.relation) = _ ∧ (_ ↔ _) :=
    sameRuling_inDatabase_iff (a := { defaultAccess := .guarded }) {} (fun _ => none) "demo"
      (q := ownersRead) nofun (by decide)
  exact ⟨ruled.1, ruled.2.mpr (.inl ⟨by decide, fun _ => by decide⟩)⟩

end Database

end Account

end QueryGateway
