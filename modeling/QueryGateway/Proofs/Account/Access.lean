import QueryGateway.Proofs.Account.Ruling

/-! Who is granted access to a relation.

A table of an account is a list of entries, of which the first that names a relation counts.
If no two entries contradict each other, their order plays no part (`getD_lookupRelation_iff`).
Then access is granted exactly if the level of the relation asks for no key, or the account's
own key comes with the question, or a subuser's with a privilege that covers the access
(`granted_iff_allowed`). Strangers are granted what needs no key, and the owner everything. -/
namespace QueryGateway

/-! ### Names of one relation -/

/-- Two names stand for one relation: they differ in the case of letters at most, or one is
the other in the schema `public`. -/
def SameRelation (m n : String) : Prop :=
  m.toLower = n.toLower ∨ ('.' ∉ m.toList ∧ n.toLower = "public." ++ m.toLower) ∨
    ('.' ∉ n.toList ∧ m.toLower = "public." ++ n.toLower)

instance (m n : String) : Decidable (SameRelation m n) :=
  inferInstanceAs (Decidable (_ ∨ _))

section Names

variable {m n : String}

theorem ne_toLower_of_dotless {text : String} (dotted : '.' ∈ text.toList)
    (h : '.' ∉ n.toList) : text ≠ n.toLower := by
  intro same
  rw [same] at dotted
  exact h (dot_mem_toLower.mp dotted)

/-- The names that relations are looked up by are equal for names of one relation only. -/
theorem qualified_eq_iff : qualified m = qualified n ↔ SameRelation m n := by
  have inPublic (s : String) : '.' ∈ ("public." ++ s).toList := by simp
  rw [SameRelation]
  by_cases hm : '.' ∈ m.toList <;> by_cases hn : '.' ∈ n.toList
  · rw [qualified_of_dot hm, qualified_of_dot hn]
    simp [hm, hn]
  · have apart := ne_toLower_of_dotless (dot_mem_toLower.mpr hm) hn
    rw [qualified_of_dot hm, qualified_of_dotless hn]
    simp [hm, hn, apart]
  · have apart := ne_toLower_of_dotless (dot_mem_toLower.mpr hn) hm
    rw [qualified_of_dotless hm, qualified_of_dot hn]
    simp [hm, hn, apart.symm, eq_comm]
  · have apart := ne_toLower_of_dotless (inPublic m.toLower) hn
    have apart' := ne_toLower_of_dotless (inPublic n.toLower) hm
    rw [qualified_of_dotless hm, qualified_of_dotless hn]
    simp [hm, hn, apart.symm, apart'.symm]

end Names

/-! ### Tables -/

section Tables

variable {α : Type} {table : List (String × α)} {relation : String} {otherwise a : α}

/-- No two entries of a table say different things about one relation. -/
def Unambiguous (table : List (String × α)) : Prop :=
  ∀ e ∈ table, ∀ f ∈ table, SameRelation e.1 f.1 → e.2 = f.2

/-- What a table says about a relation: what an entry that names it says, or if there is none
what holds otherwise. -/
def Says (table : List (String × α)) (otherwise : α) (relation : String) (a : α) : Prop :=
  (∃ e ∈ table, SameRelation e.1 relation ∧ e.2 = a) ∨
    (∀ e ∈ table, ¬ SameRelation e.1 relation) ∧ a = otherwise

/-- What is looked up in a table is what it says. -/
theorem getD_lookupRelation_iff (clear : Unambiguous table) :
    (lookupRelation table relation).getD otherwise = a ↔ Says table otherwise relation a := by
  rw [lookupRelation, Says]
  simp only [qualified_eq_iff]
  cases found : table.find? fun e => decide (SameRelation e.1 relation) with
  | none =>
    have absent : ∀ e ∈ table, ¬ SameRelation e.1 relation := by
      simpa using List.find?_eq_none.mp found
    have nowhere : ¬ ∃ e ∈ table, SameRelation e.1 relation ∧ e.2 = a := by
      intro named
      obtain ⟨e, he, same, _⟩ := named
      exact absent e he same
    rw [or_iff_right nowhere, and_iff_right absent]
    exact eq_comm
  | some e =>
    have he := List.mem_of_find?_eq_some found
    have named : SameRelation e.1 relation := by simpa using List.find?_some found
    have somewhere : ¬ ∀ e ∈ table, ¬ SameRelation e.1 relation := fun absent => absent e he named
    rw [or_iff_left fun h => somewhere h.1]
    constructor
    · intro same
      exact ⟨e, he, named, same⟩
    · intro other
      obtain ⟨f, hf, named', rfl⟩ := other
      -- Both entries name the relation, so they name one another.
      refine clear e he f hf (qualified_eq_iff.mp ?_)
      rw [qualified_eq_iff.mpr named, qualified_eq_iff.mpr named']

end Tables

/-! ### Keys -/

/-- The key that a source gives: what its variable holds, or else its text. An empty one counts
as none. -/
def KeySource.Gives (k : KeySource) (env : Environment) (key : String) : Prop :=
  key ≠ "" ∧ (k.variableName.bind env = some key ∨
    (k.variableName.bind env = none ∨ k.variableName.bind env = some "") ∧ k.literal = some key)

theorem filter_nonempty_eq_some {text : Option String} {key : String} :
    text.filter (!·.isEmpty) = some key ↔ key ≠ "" ∧ text = some key := by
  rw [Option.filter_eq_some_iff, Bool.not_eq_true', and_comm]
  simp [← Bool.not_eq_true]

theorem KeySource.resolve_eq_some_iff {k : KeySource} {env : Environment} {key : String} :
    k.resolve env = some key ↔ k.Gives env key := by
  have missing : (k.variableName.bind env).filter (!·.isEmpty) = none ↔
      k.variableName.bind env = none ∨ k.variableName.bind env = some "" := by
    cases k.variableName.bind env with
    | none => simp
    | some text => simp
  rw [resolve, Option.or_eq_some_iff, filter_nonempty_eq_some, missing, filter_nonempty_eq_some,
    Gives]
  grind

/-- The key that comes with a question is the one that a source gives. -/
def Question.Bears (q : Question) (env : Environment) (k : KeySource) : Prop :=
  ∃ key, k.Gives env key ∧ q.credentials.apiKey = some key

theorem Question.bears_iff {q : Question} {env : Environment} {k : KeySource} :
    keyMatches (k.resolve env) q.credentials.apiKey = true ↔ q.Bears env k := by
  simp only [Bears, ← KeySource.resolve_eq_some_iff]
  cases given : k.resolve env with
  | none => simp [keyMatches]
  | some key =>
    have filled := (KeySource.resolve_eq_some_iff.mp given).1
    cases supplied : q.credentials.apiKey with
    | none => simp [keyMatches]
    | some text =>
      simp only [keyMatches, Bool.and_eq_true, Bool.not_eq_true', decide_eq_true_eq,
        Option.some.injEq, exists_eq_left']
      grind [String.isEmpty_iff]

/-! ### What is allowed -/

theorem AccessLevel.needsKey_iff {l : AccessLevel} {requireWrite : Bool} :
    l.needsKey requireWrite = true ↔ l = .guarded ∨ l = .writeGuarded ∧ requireWrite = true := by
  cases l <;> simp [needsKey]

/-- A privilege covers an access: any but `none` covers a read, and `write` and `all` cover a
write. -/
def Privilege.Covers (p : Privilege) (requireWrite : Bool) : Prop :=
  (requireWrite = false ∧ p ≠ .none) ∨ (requireWrite = true ∧ (p = .write ∨ p = .all))

theorem Privilege.allows_iff {p : Privilege} {requireWrite : Bool} :
    p.allows requireWrite = true ↔ p.Covers requireWrite := by
  cases requireWrite <;> simp [allows, allowsRead, allowsWrite, Covers]

namespace Account

/-- No table of an account contradicts itself. -/
structure Clear (a : Account) : Prop where
  relations : Unambiguous a.relations
  privileges : ∀ s ∈ a.subusers, Unambiguous s.2.privileges

/-- The level of the relation asks for a key. -/
def AsksForKey (a : Account) (q : Question) : Prop :=
  Says a.relations a.defaultAccess q.relation .guarded ∨
    Says a.relations a.defaultAccess q.relation .writeGuarded ∧ q.requireWrite = true

/-- The question comes from the owner. -/
def OwnerAsks (env : Environment) (a : Account) (q : Question) : Prop :=
  q.credentials.subuser = none ∧ q.Bears env a.key

/-- The question comes from a subuser. -/
def SubuserAsks (env : Environment) (a : Account) (q : Question) (s : Subuser) : Prop :=
  ∃ name, q.credentials.subuser = some name ∧ a.subusers.lookup name = some s ∧ q.Bears env s.key

/-- A privilege of the subuser covers the access. -/
def Entitles (s : Subuser) (q : Question) : Prop :=
  ∃ p : Privilege, Says s.privileges .none q.relation p ∧ p.Covers q.requireWrite

/-- What the access levels, the keys and the privileges allow. -/
def Allows (env : Environment) (a : Account) (q : Question) : Prop :=
  ¬ a.AsksForKey q ∨ a.OwnerAsks env q ∨ ∃ s, a.SubuserAsks env q s ∧ Entitles s q

section Allowed

variable {env : Environment} {name : String} {a : Account} {q : Question}

theorem asksForKey_iff (clear : a.Clear) :
    (a.accessFor q.relation).needsKey q.requireWrite = true ↔ a.AsksForKey q := by
  rw [AccessLevel.needsKey_iff, AsksForKey, ← getD_lookupRelation_iff clear.relations,
    ← getD_lookupRelation_iff clear.relations]
  rfl

theorem entitles_iff {s : Subuser} (clear : Unambiguous s.privileges) :
    (s.privilegeFor q.relation).allows q.requireWrite = true ↔ Entitles s q := by
  simp only [Privilege.allows_iff, Entitles, ← getD_lookupRelation_iff clear]
  simp [Subuser.privilegeFor]

theorem covers_iff (clear : a.Clear) : a.covers env q = true ↔
    a.OwnerAsks env q ∨ ∃ s, a.SubuserAsks env q s ∧ Entitles s q := by
  rw [covers, OwnerAsks]
  cases caller : q.credentials.subuser with
  | none => simp [Question.bears_iff, SubuserAsks, caller]
  | some subuser =>
    cases known : a.subusers.lookup subuser with
    | none => simp [SubuserAsks, caller, known]
    | some s =>
      have listed : (subuser, s) ∈ a.subusers := by
        obtain ⟨before, after, same, _⟩ := List.lookup_eq_some_iff.mp known
        rw [same]
        exact List.mem_append_right _ (List.mem_cons_self ..)
      simp only [known]
      rw [Bool.and_eq_true, Question.bears_iff, entitles_iff (clear.privileges _ listed)]
      simp [SubuserAsks, caller, known, and_assoc]

theorem authorize_success_iff (clear : a.Clear) :
    (a.authorize env name q).success = true ↔ a.Allows env q := by
  rw [authorize_success, admits, Bool.or_eq_true, Bool.not_eq_true', ← Bool.not_eq_true,
    asksForKey_iff clear, covers_iff clear, Allows]

theorem authorize_code_of_denied (denied : (a.authorize env name q).success = false) :
    (a.authorize env name q).code = 403 := by
  rw [authorize_success] at denied
  obtain ⟨message, same⟩ := authorize_of_not_admits env name a q denied
  rw [same]
  rfl

/-- A question of the same caller about the same relation, to write it or only to read it. -/
abbrev asked (q : Question) (requireWrite : Bool) : Question := { q with requireWrite }

/-- The question as somebody without any credentials puts it. -/
abbrev anonymous (q : Question) : Question := { q with credentials := {} }

theorem Allows.read_of_write (h : a.Allows env (asked q true)) : a.Allows env (asked q false) := by
  rcases h with free | owner | ⟨s, subuser, p, stated, covers⟩
  · refine .inl fun asks => free ?_
    rcases asks with guarded | ⟨_, write⟩
    · exact .inl guarded
    · cases write
  · exact .inr (.inl owner)
  · refine .inr (.inr ⟨s, subuser, p, stated, .inl ⟨rfl, ?_⟩⟩)
    rcases covers with ⟨read, _⟩ | ⟨_, rfl | rfl⟩
    · cases read
    · exact nofun
    · exact nofun

/-- Who is neither the owner nor a subuser: with a wrong key, an empty one or none, or with the
name of a subuser that there is not. -/
def Stranger (env : Environment) (a : Account) (q : Question) : Prop :=
  ¬ a.OwnerAsks env q ∧ ∀ s, ¬ a.SubuserAsks env q s

/-- A stranger is told what everyone is told. -/
theorem authorize_of_stranger (h : a.Stranger env q) : a.authorize env name q =
    if (a.accessFor q.relation).needsKey q.requireWrite then wrongKey q.relation
    else grant (a.accessFor q.relation) q := by
  obtain ⟨owner, subuser⟩ := h
  rw [authorize]
  cases needed : (a.accessFor q.relation).needsKey q.requireWrite with
  | false => rfl
  | true =>
    cases caller : q.credentials.subuser with
    | none =>
      have other : ¬ q.Bears env a.key := fun bears => owner ⟨caller, bears⟩
      exact if_neg (mt Question.bears_iff.mp other)
    | some n =>
      cases known : a.subusers.lookup n with
      | none => simp [known]
      | some s =>
        have other : ¬ q.Bears env s.key := fun bears => subuser s ⟨n, caller, known, bears⟩
        simp only [known]
        exact if_neg (mt Question.bears_iff.mp other)

theorem stranger_anonymous (env : Environment) (a : Account) (q : Question) :
    a.Stranger env (anonymous q) := by
  constructor
  · intro owner
    obtain ⟨_, _, _, supplied⟩ := owner
    cases supplied
  · intro s subuser
    obtain ⟨_, named, _⟩ := subuser
    cases named

/-- **Access is granted exactly as the access levels, the keys and the privileges allow it.**
Every denial has the code 403. Who may write a relation may read it. A stranger is told what
somebody without credentials is told. What is granted without credentials is granted to
everybody, and the owner is granted everything. -/
theorem granted_iff_allowed (env : Environment) (name : String) {a : Account} (clear : a.Clear)
    (q : Question) :
    ((a.authorize env name q).success = true ↔ a.Allows env q) ∧
    ((a.authorize env name q).success = false → (a.authorize env name q).code = 403) ∧
    ((a.authorize env name (asked q true)).success = true →
      (a.authorize env name (asked q false)).success = true) ∧
    (a.Stranger env q → a.authorize env name q = a.authorize env name (anonymous q) ∧
      ((a.authorize env name q).success = true ↔ ¬ a.AsksForKey q)) ∧
    ((a.authorize env name (anonymous q)).success = true →
      (a.authorize env name q).success = true) ∧
    ∀ key, a.key.Gives env key →
      (a.authorize env name { q with credentials := ⟨none, some key⟩ }).success = true := by
  have strange {q : Question} (h : a.Stranger env q) : a.Allows env q ↔ ¬ a.AsksForKey q := by
    refine or_iff_left fun known => ?_
    rcases known with owner | ⟨s, subuser, _⟩
    · exact h.1 owner
    · exact h.2 s subuser
  refine ⟨authorize_success_iff clear, authorize_code_of_denied, ?_, ?_, ?_, ?_⟩
  · rw [authorize_success_iff clear, authorize_success_iff clear]
    exact Allows.read_of_write
  · intro stranger
    constructor
    · rw [authorize_of_stranger stranger, authorize_of_stranger (stranger_anonymous env a q)]
      rfl
    · rw [authorize_success_iff clear, strange stranger]
  · rw [authorize_success_iff clear, authorize_success_iff clear,
      strange (stranger_anonymous env a q)]
    exact fun free => .inl free
  · intro key gives
    rw [authorize_success_iff clear]
    exact .inr (.inl ⟨rfl, key, gives, rfl⟩)

end Allowed

/-- An office where the owners are out of reach without a key, and the surveyor may write the
parcels. -/
def surveyOffice : Account where
  key := { variableName := some "OFFICE_KEY" }
  relations := [("public.Owners", .guarded), ("streets", .unguarded)]
  subusers := [("surveyor", {
    key := { literal := some "theodolite" }
    privileges := [("Public.Parcels", .write), ("owners", .read)] })]

/-- A question of the surveyor. -/
def surveyorAsks (apiKey relation : String) (requireWrite : Bool) : Question :=
  ⟨relation, ⟨some "surveyor", some apiKey⟩, requireWrite, [relation]⟩

theorem surveyOffice_clear : surveyOffice.Clear := by
  constructor
  · unfold Unambiguous
    decide +kernel
  · unfold Unambiguous
    decide +kernel

/-- The surveyor may write the parcels, and so may read them; with a wrong key, no more than
anybody. -/
theorem surveyor_granted : surveyOffice.Clear ∧
    (surveyOffice.authorize (fun _ => none) "survey"
      (surveyorAsks "theodolite" "parcels" true)).success = true ∧
    (surveyOffice.authorize (fun _ => none) "survey"
      (surveyorAsks "theodolite" "parcels" false)).success = true ∧
    surveyOffice.authorize (fun _ => none) "survey" (surveyorAsks "compass" "parcels" true) =
      surveyOffice.authorize (fun _ => none) "survey"
        (anonymous (surveyorAsks "compass" "parcels" true)) := by
  have allowed : surveyOffice.Allows (fun _ => none) (surveyorAsks "theodolite" "parcels" true) :=
    .inr (.inr ⟨_, ⟨"surveyor", rfl, rfl, "theodolite", ⟨by decide, .inr ⟨.inl rfl, rfl⟩⟩, rfl⟩,
      .write, .inl ⟨("Public.Parcels", .write), by decide, by decide +kernel, rfl⟩,
      .inr ⟨rfl, .inl rfl⟩⟩)
  have stranger :
      surveyOffice.Stranger (fun _ => none) (surveyorAsks "compass" "parcels" true) := by
    constructor
    · intro owner
      cases owner.1
    · intro s subuser
      obtain ⟨name, named, known, key, gives, supplied⟩ := subuser
      cases named
      cases known
      cases supplied
      exact absurd gives (by simp [KeySource.Gives])
  have ruled := granted_iff_allowed (fun _ => none) "survey" surveyOffice_clear
  have write := (ruled (surveyorAsks "theodolite" "parcels" true)).1.mpr allowed
  exact ⟨surveyOffice_clear, write,
    (ruled (surveyorAsks "theodolite" "parcels" false)).2.2.1 write,
    ((ruled (surveyorAsks "compass" "parcels" true)).2.2.2.1 stranger).1⟩

end Account

end QueryGateway
