import QueryGateway.Gatekeeper
import QueryGateway.Proofs.Except
import QueryGateway.Proofs.Gateway.Transcript
import QueryGateway.Proofs.Relation.Exactness
import QueryGateway.Proofs.Sql.Lowering

/-! What has happened when a statement is cleared to run.

`Cleared` lists it, stage by stage: the text, its one statement, the relations, the
operation, the questions to the authorizer with their answers, and the account's key.
`prepare` ends well only after all of it (`cleared_of_prepare`), and whatever it ends with
it has asked the authorizer alone (`asks_of_prepare`). -/
namespace QueryGateway

open Dialogue

/-- A question to a collaborator with its answer. -/
abbrev Event := (c : Call) × c.Answer

/-- The event is a question to the authorizer about an account. -/
def Event.Asks (account : String) (e : Event) : Prop := ∃ q, e.1 = .authorize account q

/-- The event is a question to the authorizer that was answered favourably. -/
def Event.Granted : Event → Prop
  | ⟨.authorize _ _, verdict⟩ => Verdict.success verdict = true
  | _ => False

/-- The text has passed all stages, and the events are the questions that were asked about
it. -/
structure Cleared (policy : Policy) (account : AccountContext) (credentials : Credentials)
    (sql : String) (operation : Operation) (relations : RelationSet) (events : List Event) :
    Prop where
  noSemicolon : ';' ∉ sql.toList
  noComment : ¬ ['-', '-'] <:+: sql.toList
  understood : ∃ read tree, Sql.read sql.toList = some [read] ∧ Sql.parse sql = .ok tree ∧
    (∀ r ∈ tree.references, policy.forbids r.name = false) ∧
    policy.extract tree = .ok relations ∧ tree.classify = .ok operation
  asked : events.map (·.1) = relations.names.map fun relation =>
    .authorize account.name ⟨relation, credentials, operation == .write, relations.names⟩
  granted : ∀ e ∈ events, e.Granted
  admitted : operation = .createWithKey →
    ∃ key, key ≠ "" ∧ account.apiKey = some key ∧ credentials.apiKey = some key

/-! ### Inspection -/

theorem hasDoubleDash_iff (cs : List Char) : hasDoubleDash cs = true ↔ ['-', '-'] <:+: cs := by
  induction cs using hasDoubleDash.induct with
  | case1 rest =>
    rw [hasDoubleDash]
    exact iff_of_true rfl ⟨[], rest, rfl⟩
  | case2 c rest hne ih =>
    have start : ¬ ['-', '-'] <+: c :: rest := by
      intro begins
      obtain ⟨tail, he⟩ := begins
      obtain ⟨rfl, rfl⟩ := List.cons.inj he
      exact hne _ rfl rfl
    rw [hasDoubleDash, ih, List.infix_cons_iff, or_iff_right start]
    exact hne
  | case3 => simp [hasDoubleDash]

theorem precheck_eq_ok {text : String} :
    precheck text = .ok () ↔ ';' ∉ text.toList ∧ ¬ ['-', '-'] <:+: text.toList := by
  rw [precheck, ← hasDoubleDash_iff]
  cases hs : text.toList.contains ';' <;> cases hd : hasDoubleDash text.toList <;> simp_all

theorem inspect_eq_ok {policy : Policy} {text : String} {found : Inspection} :
    inspect policy text = .ok found ↔ precheck text = .ok () ∧ Sql.parse text = .ok found.tree ∧
      policy.extract found.tree = .ok found.relations ∧
      found.tree.classify = .ok found.operation := by
  simp only [inspect, except_bind_eq_ok, except_mapError_eq_ok]
  constructor
  · intro stages
    obtain ⟨_, hp, tree, ht, relations, hr, operation, ho, h⟩ := stages
    cases h
    exact ⟨hp, ht, hr, ho⟩
  · intro stages
    obtain ⟨hp, ht, hr, ho⟩ := stages
    exact ⟨(), hp, _, ht, _, hr, _, ho, rfl⟩

/-- What inspection finds in a text, if it satisfies a condition. -/
theorem exists_inspection (policy : Policy) (text : String) (holds : Inspection → Bool)
    (h : (inspect policy text).toOption.any holds = true) :
    ∃ found, inspect policy text = .ok found ∧ holds found = true := by
  cases hfound : inspect policy text with
  | error rejection =>
    rw [hfound] at h
    cases h
  | ok found =>
    rw [hfound] at h
    exact ⟨found, rfl, h⟩

/-! ### Authorization -/

section Authorization

variable {account : String} {credentials : Credentials} {requireWrite : Bool}
  {known names : List String} {last : Option Verdict} {events : List Event}

/-- The question about a relation, with the verdict on it. -/
def answered (account : String) (credentials : Credentials) (requireWrite : Bool)
    (known : List String) (asked : String × Verdict) : Event :=
  ⟨.authorize account ⟨asked.1, credentials, requireWrite, known⟩, asked.2⟩

/-- Every relation is asked about and granted, or one is denied and those behind it are not
asked about. -/
theorem authorizeAll_yields_iff {result : Except Denial (Option Verdict)} :
    (authorizeAll account credentials requireWrite known names last).Yields events result ↔
      ∃ asked : List (String × Verdict), (∀ a ∈ asked, a.2.success = true) ∧
        ((names = asked.map (·.1) ∧
            events = asked.map (answered account credentials requireWrite known) ∧
            result = .ok ((asked.getLast?.map (·.2)).or last)) ∨
          ∃ relation verdict rest, Verdict.success verdict = false ∧
            names = asked.map (·.1) ++ relation :: rest ∧
            events = (asked ++ [(relation, verdict)]).map
              (answered account credentials requireWrite known) ∧
            result = .error ⟨relation, verdict⟩) := by
  constructor
  · intro h
    induction names generalizing last events with
    | nil =>
      obtain ⟨rfl, rfl⟩ := yields_pure.mp h
      exact ⟨[], List.forall_mem_nil _, .inl ⟨rfl, rfl, rfl⟩⟩
    | cons relation rest ih =>
      obtain ⟨(verdict : Verdict), later, rfl, hrest⟩ := yields_ask.mp h
      cases granted : verdict.success with
      | false =>
        rw [granted] at hrest
        obtain ⟨rfl, rfl⟩ := yields_pure.mp hrest
        exact ⟨[], List.forall_mem_nil _, .inr ⟨relation, verdict, rest, granted, rfl, rfl, rfl⟩⟩
      | true =>
        rw [granted] at hrest
        obtain ⟨asked, all, h⟩ := ih hrest
        refine ⟨(relation, verdict) :: asked, List.forall_mem_cons.mpr ⟨granted, all⟩, ?_⟩
        rcases h with ⟨rfl, rfl, rfl⟩ | ⟨denied, verdict', rest', hdenied, rfl, rfl, rfl⟩
        · refine .inl ⟨rfl, rfl, ?_⟩
          rw [List.getLast?_cons]
          cases asked.getLast? <;> rfl
        · exact .inr ⟨denied, verdict', rest', hdenied, rfl, rfl, rfl⟩
  · intro h
    obtain ⟨asked, all, h⟩ := h
    induction asked generalizing names last events with
    | nil =>
      rcases h with ⟨rfl, rfl, rfl⟩ | ⟨denied, verdict, rest, hdenied, rfl, rfl, rfl⟩
      · exact .done _
      · refine yields_ask.mpr ⟨verdict, [], rfl, ?_⟩
        rw [hdenied]
        exact .done _
    | cons a asked ih =>
      obtain ⟨granted, all⟩ := List.forall_mem_cons.mp all
      rcases h with ⟨rfl, rfl, rfl⟩ | ⟨denied, verdict, rest, hdenied, rfl, rfl, rfl⟩
      · refine yields_ask.mpr ⟨a.2, _, rfl, ?_⟩
        rw [granted]
        refine ih all (.inl ⟨rfl, rfl, ?_⟩)
        rw [List.getLast?_cons]
        cases asked.getLast? <;> rfl
      · refine yields_ask.mpr ⟨a.2, _, rfl, ?_⟩
        rw [granted]
        exact ih all (.inr ⟨denied, verdict, rest, hdenied, rfl, rfl, rfl⟩)

theorem asks_of_authorizeAll {result : Except Denial (Option Verdict)}
    (h : (authorizeAll account credentials requireWrite known names last).Yields events result) :
    ∀ e ∈ events, e.Asks account := by
  intro e he
  obtain ⟨asked, _, ⟨_, rfl, _⟩ | ⟨_, _, _, _, _, rfl, _⟩⟩ := authorizeAll_yields_iff.mp h
  · obtain ⟨_, _, rfl⟩ := List.mem_map.mp he
    exact ⟨_, rfl⟩
  · obtain ⟨_, _, rfl⟩ := List.mem_map.mp he
    exact ⟨_, rfl⟩

theorem granted_of_authorizeAll {verdict : Option Verdict}
    (h : (authorizeAll account credentials requireWrite known names last).Yields events
      (.ok verdict)) :
    events.map (·.1) = names.map (fun relation =>
      .authorize account ⟨relation, credentials, requireWrite, known⟩) ∧
    ∀ e ∈ events, e.Granted := by
  obtain ⟨asked, all, ⟨rfl, rfl, _⟩ | ⟨_, _, _, _, _, _, same⟩⟩ := authorizeAll_yields_iff.mp h
  · constructor
    · rw [List.map_map, List.map_map]
      rfl
    · intro e he
      obtain ⟨a, ha, rfl⟩ := List.mem_map.mp he
      exact all a ha
  · cases same

/-- The questions about names, all of them granted. -/
def grants (account : String) (credentials : Credentials) (requireWrite : Bool)
    (known names : List String) : List Event :=
  names.map fun relation =>
    ⟨.authorize account ⟨relation, credentials, requireWrite, known⟩, Verdict.granted⟩

theorem authorizeAll_grants (last : Option Verdict) : ∃ verdict,
    (authorizeAll account credentials requireWrite known names last).Yields
      (grants account credentials requireWrite known names) (.ok verdict) := by
  refine ⟨_, authorizeAll_yields_iff.mpr ⟨names.map fun relation => (relation, .granted), ?_,
    .inl ⟨?_, ?_, rfl⟩⟩⟩
  · intro a ha
    obtain ⟨_, _, rfl⟩ := List.mem_map.mp ha
    rfl
  · rw [List.map_map]
    exact (List.map_id names).symm
  · rw [List.map_map]
    rfl

end Authorization

theorem AccountContext.admits_iff {account : AccountContext} {supplied : Option String} :
    account.admits supplied = true ↔
      ∃ key, key ≠ "" ∧ account.apiKey = some key ∧ supplied = some key := by
  obtain ⟨name, apiKey⟩ := account
  cases apiKey with
  | none => simp [AccountContext.admits]
  | some expected =>
    cases supplied with
    | none => simp [AccountContext.admits]
    | some key =>
      have hne : expected.isEmpty = false ↔ expected ≠ "" := by simp
      simp only [AccountContext.admits, Bool.and_eq_true, Bool.not_eq_true', hne,
        decide_eq_true_eq, Option.some.injEq]
      constructor
      · intro matching
        obtain ⟨hne, rfl⟩ := matching
        exact ⟨expected, hne, rfl, rfl⟩
      · intro matching
        obtain ⟨_, hne, rfl, rfl⟩ := matching
        exact ⟨hne, rfl⟩

/-! ### Clearance -/

section Clearance

variable {policy : Policy} {r : Request} {account : AccountContext} {events : List Event}

/-- How a request comes to be refused or prepared. -/
theorem prepare_cases {result : Except Refusal Prepared}
    (h : (prepare policy r account).Yields events result) :
    (∃ rejection, inspect policy r.sql = .error rejection ∧ events = [] ∧
      result = .error (.rejected rejection)) ∨
    ∃ found checked, inspect policy r.sql = .ok found ∧
      (checkRelations account.name found.relations r.credentials
        found.operation.requiresWrite).Yields events checked ∧
      ((∃ denial, checked = .error denial ∧ result = .error (.denied denial)) ∨
        (found.operation = .createWithKey ∧ account.admits r.apiKey = false ∧
          result = .error .wrongKey) ∨
        ∃ verdict, checked = .ok verdict ∧
          (found.operation = .createWithKey → account.admits r.apiKey = true) ∧
          result = .ok ⟨r.sql, found.operation, found.relations, verdict⟩) := by
  unfold prepare at h
  split at h
  · obtain ⟨hevents, hresult⟩ := yields_pure.mp h
    exact .inl ⟨_, ‹_›, hevents, hresult⟩
  · obtain ⟨asked, checked, rest, rfl, hchecked, hrest⟩ := yields_bind.mp h
    refine .inr ⟨_, checked, ‹_›, ?_⟩
    split at hrest
    · obtain ⟨rfl, hresult⟩ := yields_pure.mp hrest
      rw [List.append_nil]
      exact ⟨hchecked, .inl ⟨_, rfl, hresult⟩⟩
    · split at hrest
      · obtain ⟨rfl, hresult⟩ := yields_pure.mp hrest
        rw [List.append_nil]
        simp_all
      · obtain ⟨rfl, hresult⟩ := yields_pure.mp hrest
        rw [List.append_nil]
        simp_all

/-- Whatever comes of a request, only the authorizer has been asked. -/
theorem asks_of_prepare {result : Except Refusal Prepared}
    (h : (prepare policy r account).Yields events result) :
    ∀ e ∈ events, e.Asks account.name := by
  rcases prepare_cases h with ⟨_, _, rfl, _⟩ | ⟨_, _, _, checked, _⟩
  · exact List.forall_mem_nil _
  · exact asks_of_authorizeAll checked

/-- What is prepared is the text of the request, and it is cleared. -/
theorem cleared_of_prepare {p : Prepared} (h : (prepare policy r account).Yields events (.ok p)) :
    p.sql = r.sql ∧
      Cleared policy account r.credentials r.sql p.operation p.relations events := by
  rcases prepare_cases h with ⟨_, _, _, h⟩ | ⟨found, checked, hfound, hchecked, hresult⟩
  · cases h
  · rcases hresult with ⟨_, _, h⟩ | ⟨_, _, h⟩ | ⟨verdict, rfl, hkey, h⟩
    · cases h
    · cases h
    · cases h
      obtain ⟨hpre, hparse, hextract, hclassify⟩ := inspect_eq_ok.mp hfound
      obtain ⟨hsemicolon, hcomment⟩ := precheck_eq_ok.mp hpre
      obtain ⟨read, hread, _⟩ := Sql.parse_eq_ok hparse
      obtain ⟨hasked, hgranted⟩ := granted_of_authorizeAll hchecked
      obtain ⟨hallowed, _⟩ := Tree.extract_eq_ok.mp hextract
      have allowed : ∀ x ∈ found.tree.references, policy.forbids x.name = false := by
        intro x hx
        exact Bool.eq_false_iff.mpr (List.find?_eq_none.mp hallowed x hx)
      exact ⟨rfl, hsemicolon, hcomment,
        ⟨read, found.tree, hread, hparse, allowed, hextract, hclassify⟩, hasked, hgranted,
        fun ho => AccountContext.admits_iff.mp (hkey ho)⟩

/-- If all its relations are granted, a statement that passed inspection is prepared. -/
theorem prepare_grants (account : AccountContext) {found : Inspection}
    (inspected : inspect policy r.sql = .ok found)
    (admits : found.operation = .createWithKey → account.admits r.apiKey = true) :
    ∃ p, (prepare policy r account).Yields
      (grants account.name r.credentials found.operation.requiresWrite found.relations.names
        found.relations.names) (.ok p) := by
  obtain ⟨verdict, asked⟩ : ∃ verdict, (checkRelations account.name found.relations r.credentials
      found.operation.requiresWrite).Yields (grants account.name r.credentials
        found.operation.requiresWrite found.relations.names found.relations.names) (.ok verdict) :=
    authorizeAll_grants none
  refine ⟨⟨r.sql, found.operation, found.relations, verdict⟩, ?_⟩
  rw [prepare, inspected]
  refine yields_bind.mpr ⟨_, _, [], (List.append_nil _).symm, asked, ?_⟩
  have key : ¬ (found.operation = .createWithKey && !account.admits r.apiKey) = true := by
    intro h
    obtain ⟨hc, ha⟩ := Bool.and_eq_true_iff.mp h
    rw [admits (of_decide_eq_true hc)] at ha
    cases ha
  show Yields (if _ then _ else _) _ _
  rw [if_neg key]
  exact .done _

end Clearance

end QueryGateway
