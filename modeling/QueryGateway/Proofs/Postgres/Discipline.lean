import QueryGateway.Postgres.Adapter
import QueryGateway.Proofs.Gateway.Transcript

/-! What is sent to the server in a transaction, and how the transaction ends.

The server may fail at any call. Whoever talks to it has a plan, and follows it until a call
fails (`Sent`). The plan of a statement alone is its transaction, its settings, itself and
the commit, so what is committed was done in full. A transaction of many statements makes its
settings until they are all made, and from then on sends statements only. A stream has no
commit, and ends with its first error (`transactions_disciplined`). -/
namespace QueryGateway.Postgres

open Dialogue

/-! ### Plans -/

/-- A call with its answer. -/
abbrev Exchange := (c : Call) × c.Answer

/-- Whether the server did what it was asked; a query for one value has to return one. -/
def Exchange.succeeded : Exchange → Bool
  | ⟨.openTransaction, .error _⟩ => false
  | ⟨.execute .., .error _⟩ => false
  | ⟨.fetchFirst _, .ok (some (some _))⟩ => true
  | ⟨.fetchFirst _, _⟩ => false
  | ⟨.commit, .error _⟩ => false
  | ⟨.rollback, .error _⟩ => false
  | _ => true

/-- The calls of a plan are put one after the other until one fails: what was exchanged, and
whether all was done. -/
inductive Sent : List Call → List Exchange → Bool → Prop
  | done : Sent [] [] true
  | stopped {c : Call} {answer : c.Answer} (failed : Exchange.succeeded ⟨c, answer⟩ = false)
      (rest : List Call) : Sent (c :: rest) [⟨c, answer⟩] false
  | next {c : Call} {answer : c.Answer} (succeeded : Exchange.succeeded ⟨c, answer⟩ = true)
      {plan : List Call} {events : List Exchange} {all : Bool} (rest : Sent plan events all) :
      Sent (c :: plan) (⟨c, answer⟩ :: events) all

namespace Sent

variable {plan plan' : List Call} {events events' : List Exchange} {all : Bool}

theorem append (h : Sent plan events true) (h' : Sent plan' events' all) :
    Sent (plan ++ plan') (events ++ events') all := by
  generalize whole : true = complete at h
  induction h with
  | done => exact h'
  | stopped => cases whole
  | next succeeded _ ih => exact .next succeeded (ih whole)

theorem append_of_failed (h : Sent plan events false) (plan' : List Call) :
    Sent (plan ++ plan') events false := by
  generalize partly : false = complete at h
  induction h with
  | done => cases partly
  | stopped failed rest => exact .stopped failed (rest ++ plan')
  | next succeeded _ ih => exact .next succeeded (ih partly)

theorem single {c : Call} {answer : c.Answer} {all : Bool}
    (h : Exchange.succeeded ⟨c, answer⟩ = all) : Sent [c] [⟨c, answer⟩] all := by
  cases all with
  | true => exact .next h .done
  | false => exact .stopped h []

theorem calls_single {c : Call} (h : Sent [c] events all) : events.map (·.1) = [c] := by
  cases h with
  | stopped => rfl
  | next _ rest =>
    cases rest
    rfl

theorem calls_follow (h : Sent plan events all) : events.map (·.1) <+: plan := by
  induction h with
  | done => exact List.prefix_rfl
  | stopped _ rest => exact ⟨rest, rfl⟩
  | next _ _ ih => exact (List.prefix_cons_inj _).mpr ih

theorem calls_eq (h : Sent plan events true) : events.map (·.1) = plan := by
  generalize whole : true = complete at h
  induction h with
  | done => rfl
  | stopped => cases whole
  | next _ _ ih => exact congrArg _ (ih whole)

theorem all_succeeded (h : Sent plan events true) : ∀ e ∈ events, e.succeeded = true := by
  generalize whole : true = complete at h
  induction h with
  | done => exact List.forall_mem_nil _
  | stopped => cases whole
  | next succeeded _ ih =>
    subst whole
    exact List.forall_mem_cons.mpr ⟨succeeded, ih rfl⟩

theorem failed_last (h : Sent plan events false) :
    ∃ before e, events = before ++ [e] ∧ e.succeeded = false := by
  generalize partly : false = complete at h
  induction h with
  | done => cases partly
  | stopped failed => exact ⟨[], _, rfl, failed⟩
  | next _ _ ih =>
    obtain ⟨before, e, rfl, failed⟩ := ih partly
    exact ⟨_ :: before, e, rfl, failed⟩

/-- The last call of a plan that was done is the last exchange, and succeeded. -/
theorem last_of_done {c : Call} (h : Sent (plan ++ [c]) events true) :
    ∃ before answer, events = before ++ [⟨c, answer⟩] ∧
      Exchange.succeeded ⟨c, answer⟩ = true := by
  obtain ⟨before, last, rfl, _, hlast⟩ := List.map_eq_append_iff.mp h.calls_eq
  obtain ⟨⟨c', answer⟩, nothing, rfl, rfl, hnothing⟩ := List.map_eq_cons_iff.mp hlast
  obtain rfl := List.map_eq_nil_iff.mp hnothing
  have last := List.mem_append_right before (List.mem_singleton_self ⟨c', answer⟩)
  exact ⟨before, answer, rfl, h.all_succeeded _ last⟩

/-- What ends with a success was done to its end. -/
theorem done_of_last {before : List Exchange} {e : Exchange} (h : Sent plan (before ++ [e]) all)
    (succeeded : e.succeeded = true) : all = true := by
  cases all with
  | true => rfl
  | false =>
    obtain ⟨_, e', same, failed⟩ := h.failed_last
    obtain ⟨_, rfl⟩ := List.append_singleton_inj.mp same
    rw [succeeded] at failed
    cases failed

/-- Whatever comes before an exchange succeeded, and nothing comes after a failure. -/
theorem split {before after : List Exchange} {e : Exchange}
    (h : Sent plan (before ++ e :: after) all) :
    (∀ x ∈ before, x.succeeded = true) ∧ (e.succeeded = false → after = []) := by
  induction before generalizing plan with
  | nil =>
    refine ⟨List.forall_mem_nil _, fun failed => ?_⟩
    cases h with
    | stopped => rfl
    | next succeeded =>
      rw [succeeded] at failed
      cases failed
  | cons first before ih =>
    generalize joined : first :: before ++ e :: after = events at h
    cases h with
    | done => cases joined
    | stopped => simp at joined
    | next first_succeeded rest =>
      obtain ⟨rfl, rfl⟩ := List.cons.inj joined
      obtain ⟨earlier, last⟩ := ih rest
      exact ⟨List.forall_mem_cons.mpr ⟨first_succeeded, earlier⟩, last⟩

end Sent

/-! ### Settings and statements -/

/-- The calls that make the settings which are configured: the encoding, then the timeout. -/
def settingCalls (options : ExecutionOptions) (timeoutMs : Option Nat) : List Call :=
  (options.clientEncoding.map fun e => .execute setting ["client_encoding", e]).toList ++
    (timeoutMs.map fun n =>
      .execute setting ["statement_timeout", String.ofList (Nat.toDigits 10 n)]).toList

theorem map_settings (options : ExecutionOptions) (timeoutMs : Option Nat) :
    (settings options timeoutMs).map (Call.execute setting) = settingCalls options timeoutMs := by
  rw [settings, List.map_append, ← Option.toList_map, ← Option.toList_map, Option.map_map,
    Option.map_map]
  rfl

/-- The call that runs a statement. -/
def statementCall (sql : String) : ExecutionKind → Call
  | .query => .fetchFirst (aggregate sql)
  | .mutation => .execute sql []

/-- The call makes a setting. -/
def Call.IsSetting (c : Call) : Prop := ∃ name value, c = .execute setting [name, value]

theorem isSetting_of_mem {options : ExecutionOptions} {timeoutMs : Option Nat} {c : Call}
    (h : c ∈ settingCalls options timeoutMs) : c.IsSetting := by
  rcases List.mem_append.mp h with h | h <;>
  · obtain ⟨value, _, rfl⟩ := Option.map_eq_some_iff.mp (Option.mem_toList.mp h)
    exact ⟨_, _, rfl⟩

theorem statementCall_not_isSetting (sql : String) (kind : ExecutionKind) :
    ¬ (statementCall sql kind).IsSetting := by
  intro isSetting
  obtain ⟨_, _, same⟩ := isSetting
  cases kind <;> cases same

theorem sent_of_configure {parameters : List (List String)} {events : List Exchange}
    {result : Except ExecutionError Unit} (h : (configure parameters).Yields events result) :
    Sent (parameters.map (Call.execute setting)) events result.isOk := by
  induction parameters generalizing events with
  | nil =>
    obtain ⟨rfl, rfl⟩ := yields_pure.mp h
    exact .done
  | cons first rest ih =>
    obtain ⟨answer, later, rfl, hlater⟩ := yields_ask.mp h
    cases answer with
    | error e =>
      obtain ⟨rfl, rfl⟩ := yields_pure.mp hlater
      exact .stopped rfl _
    | ok _ => exact .next rfl (ih hlater)

theorem sent_of_settings {options : ExecutionOptions} {timeoutMs : Option Nat}
    {events : List Exchange} {result : Except ExecutionError Unit}
    (h : (configure (settings options timeoutMs)).Yields events result) :
    Sent (settingCalls options timeoutMs) events result.isOk := by
  rw [← map_settings]
  exact sent_of_configure h

theorem sent_of_run {sql : String} {kind : ExecutionKind} {events : List Exchange}
    {result : Except ExecutionError Outcome} (h : (run sql kind).Yields events result) :
    Sent [statementCall sql kind] events result.isOk := by
  cases kind with
  | query =>
    obtain ⟨answer, later, rfl, hlater⟩ := yields_ask.mp h
    -- an error, no row, a null, or a value
    rcases answer with e | _ | _ | v <;>
    · obtain ⟨rfl, rfl⟩ := yields_pure.mp hlater
      exact .single rfl
  | mutation =>
    obtain ⟨answer, later, rfl, hlater⟩ := yields_ask.mp h
    cases answer <;>
    · obtain ⟨rfl, rfl⟩ := yields_pure.mp hlater
      exact .single rfl

/-! ### A statement alone -/

/-- What is sent before the commit. -/
def plan (timeoutMs : Option Nat) (sql : String) (options : ExecutionOptions) : List Call :=
  .openTransaction :: (settingCalls options timeoutMs ++ [statementCall sql options.kind])

/-- What is exchanged about a statement in a transaction of its own, and what comes of it. The
plan is followed up to the commit. A commit comes behind all of it, done without a failure,
and the result is good exactly if the commit is. Behind a failure the connection is given
back, with the transaction if it was opened, and nothing else is sent. -/
structure CommittedInFull (timeoutMs : Option Nat) (sql : String) (options : ExecutionOptions)
    (events : List Exchange) (result : Except ExecutionError Outcome) : Prop where
  followed : ∃ sent ending, events = sent ++ ending ∧
    Sent (plan timeoutMs sql options ++ [.commit]) sent result.isOk ∧
    ∀ e ∈ ending, e.1 = .leave
  commitsLast : ∀ before answer after, events = before ++ ⟨.commit, answer⟩ :: after →
    before.map (·.1) = plan timeoutMs sql options ∧ ∀ e ∈ before, e.succeeded = true
  isOk_iff : result.isOk = true ↔ ⟨.commit, .ok ()⟩ ∈ events
  stops : ∀ before e after, events = before ++ e :: after → e.succeeded = false →
    ∀ later ∈ after, later.1 = .leave
  leaves : ⟨.openTransaction, .ok ()⟩ ∈ events → result.isOk = false →
    ∃ before, events = before ++ [⟨.leave, ()⟩]

section Alone

variable {timeoutMs : Option Nat} {sql : String} {options : ExecutionOptions}
  {events : List Exchange} {result : Except ExecutionError Outcome}

theorem commit_notMem_plan (timeoutMs : Option Nat) (sql : String) (options : ExecutionOptions) :
    Call.commit ∉ plan timeoutMs sql options := by
  intro planned
  rcases List.mem_cons.mp planned with same | planned
  · cases same
  · rcases List.mem_append.mp planned with made | ran
    · obtain ⟨_, _, same⟩ := isSetting_of_mem made
      cases same
    · have same := List.mem_singleton.mp ran
      cases hkind : options.kind <;> rw [hkind] at same <;> cases same

/-- The calls in front of a commit are the plan. -/
theorem calls_eq_plan {before after : List Call}
    (h : before ++ .commit :: after <+: plan timeoutMs sql options ++ [.commit]) :
    before = plan timeoutMs sql options ∧ after = [] := by
  obtain ⟨rest, whole⟩ := h
  rw [List.append_assoc, List.cons_append] at whole
  rcases List.append_eq_append_iff.mp whole with ⟨between, hplan, hcommit⟩ | ⟨between, _, hcommit⟩
  · cases between with
    | nil => simp_all
    | cons c between =>
      obtain ⟨rfl, _⟩ := List.cons.inj hcommit
      refine absurd ?_ (commit_notMem_plan timeoutMs sql options)
      rw [hplan]
      exact List.mem_append_right _ (List.mem_cons_self ..)
  · cases between <;> simp_all

theorem sent_of_configureAndRun
    (h : (configureAndRun sql options timeoutMs).Yields events result) :
    Sent (settingCalls options timeoutMs ++ [statementCall sql options.kind]) events
      result.isOk := by
  obtain ⟨first, configured, rest, rfl, hfirst, hrest⟩ := yields_bind.mp h
  have settled := sent_of_settings hfirst
  cases configured with
  | error e =>
    obtain ⟨rfl, rfl⟩ := yields_pure.mp hrest
    rw [List.append_nil]
    exact settled.append_of_failed _
  | ok _ => exact settled.append (sent_of_run hrest)

/-- A statement alone follows its plan; if that fails once the transaction is open, the
connection is given back. -/
theorem sent_of_execute (h : (execute timeoutMs sql options).Yields events result) :
    ∃ sent ending, events = sent ++ ending ∧
      Sent (plan timeoutMs sql options ++ [.commit]) sent result.isOk ∧
      (ending = [] ∧ (⟨.openTransaction, .ok ()⟩ ∈ events → result.isOk = true) ∨
        ending = [⟨.leave, ()⟩]) := by
  obtain ⟨opened, rest, rfl, hrest⟩ := yields_ask.mp h
  cases opened with
  | error e =>
    obtain ⟨rfl, rfl⟩ := yields_pure.mp hrest
    refine ⟨_, [], (List.append_nil _).symm, .stopped rfl _, .inl ⟨rfl, fun opened => ?_⟩⟩
    cases List.mem_singleton.mp opened
  | ok _ =>
    obtain ⟨first, ran, later, rfl, hfirst, hlater⟩ := yields_bind.mp hrest
    have sent := sent_of_configureAndRun hfirst
    cases ran with
    | error e =>
      obtain ⟨_, last, rfl, hlast⟩ := yields_ask.mp hlater
      obtain ⟨rfl, rfl⟩ := yields_pure.mp hlast
      exact ⟨_ :: first, _, rfl, .next rfl (sent.append_of_failed _), .inr rfl⟩
    | ok outcome =>
      obtain ⟨committed, last, rfl, hlast⟩ := yields_ask.mp hlater
      cases committed with
      | error e =>
        obtain ⟨_, nothing, rfl, hend⟩ := yields_ask.mp hlast
        obtain ⟨rfl, rfl⟩ := yields_pure.mp hend
        exact ⟨⟨.openTransaction, .ok ()⟩ :: (first ++ [⟨.commit, .error e⟩]), [⟨.leave, ()⟩],
          by rw [List.cons_append, List.append_assoc]; rfl,
          .next rfl (sent.append (.single rfl)), .inr rfl⟩
      | ok _ =>
        obtain ⟨rfl, rfl⟩ := yields_pure.mp hlast
        exact ⟨⟨.openTransaction, .ok ()⟩ :: (first ++ [⟨.commit, .ok ()⟩]), [], by simp,
          .next rfl (sent.append (.single rfl)), .inl ⟨rfl, fun _ => rfl⟩⟩

/-- What is no return of the connection was sent by the plan. -/
theorem within_sent {sent ending before after : List Exchange} {e : Exchange}
    (left : ∀ e ∈ ending, e.1 = .leave) (working : e.1 ≠ .leave)
    (parts : sent ++ ending = before ++ e :: after) :
    ∃ rest, sent = before ++ e :: rest ∧ after = rest ++ ending := by
  rcases List.append_eq_append_iff.mp parts with ⟨middle, _, hending⟩ | ⟨rest, hsent, hrest⟩
  · refine absurd (left e ?_) working
    rw [hending]
    exact List.mem_append_right _ (List.mem_cons_self ..)
  · cases rest with
    | nil =>
      refine absurd (left e ?_) working
      rw [← show e :: after = ending from hrest]
      exact List.mem_cons_self ..
    | cons first rest =>
      obtain ⟨rfl, rfl⟩ := List.cons.inj hrest
      exact ⟨rest, hsent, rfl⟩

theorem committedInFull_of_execute (h : (execute timeoutMs sql options).Yields events result) :
    CommittedInFull timeoutMs sql options events result := by
  obtain ⟨sent, ending, rfl, followed, ended⟩ := sent_of_execute h
  have left : ∀ e ∈ ending, e.1 = .leave := by
    rcases ended with ⟨rfl, _⟩ | rfl
    · exact List.forall_mem_nil _
    · exact List.forall_mem_singleton.mpr rfl
  have calls {before rest : List Exchange} {answer : Except DriverError Unit}
      (hsent : sent = before ++ ⟨.commit, answer⟩ :: rest) :
      before.map (·.1) = plan timeoutMs sql options ∧ rest = [] := by
    have sentCalls := followed.calls_follow
    rw [hsent, List.map_append, List.map_cons] at sentCalls
    obtain ⟨planned, last⟩ := calls_eq_plan sentCalls
    exact ⟨planned, List.map_eq_nil_iff.mp last⟩
  constructor
  case followed => exact ⟨sent, ending, rfl, followed, left⟩
  case commitsLast =>
    intro before answer after parts
    obtain ⟨rest, rfl, _⟩ := within_sent left (e := ⟨.commit, answer⟩) nofun parts
    exact ⟨(calls rfl).1, followed.split.1⟩
  case isOk_iff =>
    constructor
    · intro good
      rw [good] at followed
      obtain ⟨before, answer, rfl, succeeded⟩ := followed.last_of_done
      cases answer with
      | error e => cases succeeded
      | ok _ => simp
    · intro committed
      obtain ⟨before, after, parts⟩ := List.append_of_mem committed
      obtain ⟨rest, hsent, _⟩ := within_sent left (e := ⟨.commit, .ok ()⟩) nofun parts
      obtain ⟨_, rfl⟩ := calls hsent
      rw [hsent] at followed
      exact followed.done_of_last rfl
  case stops =>
    intro before e after parts failed
    have working : e.1 ≠ .leave := by
      obtain ⟨c, answer⟩ := e
      rintro rfl
      cases failed
    obtain ⟨rest, rfl, rfl⟩ := within_sent left working parts
    rw [followed.split.2 failed]
    exact left
  case leaves =>
    intro opened bad
    rcases ended with ⟨_, good⟩ | rfl
    · rw [good opened] at bad
      cases bad
    · exact ⟨sent, rfl⟩

end Alone

/-! ### Statements in one transaction -/

/-- Runs statements in a transaction, whatever comes of each. -/
def Transaction.runAll (timeoutMs : Option Nat) :
    Transaction → List (String × ExecutionOptions) →
    Session (List (Except ExecutionError Outcome))
  | _, [] => return []
  | t, (sql, options) :: rest => do
    let (result, t') ← t.execute timeoutMs sql options
    return result :: (← t'.runAll timeoutMs rest)

/-- Opens a transaction and runs statements in it. -/
def openAndRun (timeoutMs : Option Nat) (statements : List (String × ExecutionOptions)) :
    Session (Except ExecutionError (List (Except ExecutionError Outcome))) := do
  match ← openTransaction with
  | .error e => return .error e
  | .ok t => return .ok (← t.runAll timeoutMs statements)

/-- The calls that run statements. -/
def statementCalls (statements : List (String × ExecutionOptions)) : List Call :=
  statements.map fun (sql, options) => statementCall sql options.kind

/-- What is exchanged about statements in one transaction. For one after the other the settings
are tried and fail, with nothing sent behind the failure. Once they are made, that statement
and the further ones are sent, and no setting. -/
inductive SettledOnce (timeoutMs : Option Nat) :
    List (String × ExecutionOptions) → List Exchange → Prop
  | unused : SettledOnce timeoutMs [] []
  | refused {sql : String} {options : ExecutionOptions} {tried : List Exchange}
      (failed : Sent (settingCalls options timeoutMs) tried false)
      {rest : List (String × ExecutionOptions)} {events : List Exchange}
      (later : SettledOnce timeoutMs rest events) :
      SettledOnce timeoutMs ((sql, options) :: rest) (tried ++ events)
  | settled {sql : String} {options : ExecutionOptions} {made : List Exchange}
      (succeeded : Sent (settingCalls options timeoutMs) made true)
      {rest : List (String × ExecutionOptions)} {ran : List Exchange}
      (calls : ran.map (·.1) = statementCalls ((sql, options) :: rest))
      (unset : ∀ e ∈ ran, ¬ e.1.IsSetting) :
      SettledOnce timeoutMs ((sql, options) :: rest) (made ++ ran)

section Many

variable {timeoutMs : Option Nat} {statements : List (String × ExecutionOptions)}
  {events : List Exchange} {results : List (Except ExecutionError Outcome)}

/-- Once its settings are made, a transaction sends statements only. -/
theorem calls_of_configured (h : (Transaction.runAll timeoutMs ⟨true⟩ statements).Yields events
    results) : events.map (·.1) = statementCalls statements := by
  induction statements generalizing events results with
  | nil =>
    obtain ⟨rfl, _⟩ := yields_pure.mp h
    rfl
  | cons statement rest ih =>
    obtain ⟨sql, options⟩ := statement
    obtain ⟨first, ⟨result, t⟩, later, rfl, hfirst, hlater⟩ := yields_bind.mp h
    obtain ⟨_, hrun, same⟩ := yields_map.mp hfirst
    cases same
    obtain ⟨_, hrest, _⟩ := yields_map.mp hlater
    rw [List.map_append, (sent_of_run hrun).calls_single, ih hrest]
    rfl

theorem not_isSetting_of_calls (h : events.map (·.1) = statementCalls statements) :
    ∀ e ∈ events, ¬ e.1.IsSetting := by
  intro e he
  have called := List.mem_map_of_mem (f := (·.1)) he
  rw [h] at called
  obtain ⟨⟨sql, options⟩, _, same⟩ := List.mem_map.mp called
  rw [← same]
  exact statementCall_not_isSetting sql options.kind

theorem settledOnce_of_runAll (h : (Transaction.runAll timeoutMs {} statements).Yields events
    results) : SettledOnce timeoutMs statements events := by
  induction statements generalizing events results with
  | nil =>
    obtain ⟨rfl, _⟩ := yields_pure.mp h
    exact .unused
  | cons statement rest ih =>
    obtain ⟨sql, options⟩ := statement
    obtain ⟨first, ⟨result, t⟩, later, rfl, hfirst, hlater⟩ := yields_bind.mp h
    obtain ⟨results', hrest, _⟩ := yields_map.mp hlater
    obtain ⟨tried, configured, ran, rfl, htried, hran⟩ := yields_bind.mp hfirst
    have sent := sent_of_settings htried
    cases configured with
    | error e =>
      obtain ⟨rfl, same⟩ := yields_pure.mp hran
      cases same
      rw [List.append_nil]
      exact .refused sent (ih hrest)
    | ok _ =>
      obtain ⟨_, hrun, same⟩ := yields_map.mp hran
      cases same
      have calls : (ran ++ later).map (·.1) = statementCalls ((sql, options) :: rest) := by
        rw [List.map_append, (sent_of_run hrun).calls_single, calls_of_configured hrest]
        rfl
      rw [List.append_assoc]
      exact .settled sent calls (not_isSetting_of_calls calls)

end Many

/-! ### Streams -/

/-- The item of a stream that an exchange hands on. -/
def Exchange.item? : Exchange → Option (Except ExecutionError Json)
  | ⟨.emit item, _⟩ => some item
  | _ => none

/-- What is exchanged about a stream: no commit, and rows handed on up to the first error,
which is the last item. -/
structure Streamed (events : List Exchange) : Prop where
  uncommitted : ∀ e ∈ events, e.1 ≠ .commit
  items : ∃ (rows : List Json) (failure : Option ExecutionError),
    events.filterMap Exchange.item? = rows.map .ok ++ (failure.map .error).toList

section Stream

variable {events events' : List Exchange}

/-- Exchanges that hand on nothing and commit nothing. -/
def Silent (events : List Exchange) : Prop := ∀ e ∈ events, e.1 ≠ .commit ∧ e.item? = none

theorem Silent.items_eq_nil (h : Silent events) : events.filterMap Exchange.item? = [] :=
  List.filterMap_eq_nil_iff.mpr fun e he => (h e he).2

theorem Streamed.behind (h : Streamed events) (silent : Silent events') :
    Streamed (events' ++ events) where
  uncommitted e he := (List.mem_append.mp he).elim (fun he => (silent e he).1) (h.uncommitted e)
  items := by
    rw [List.filterMap_append, silent.items_eq_nil]
    exact h.items

theorem Streamed.before (h : Streamed events) (silent : Silent events') :
    Streamed (events ++ events') where
  uncommitted e he := (List.mem_append.mp he).elim (h.uncommitted e) (fun he => (silent e he).1)
  items := by
    rw [List.filterMap_append, silent.items_eq_nil, List.append_nil]
    exact h.items

theorem silent_single {c : Call} (answer : c.Answer) (other : c ≠ .commit)
    (nothing : Exchange.item? ⟨c, answer⟩ = none) : Silent [⟨c, answer⟩] :=
  List.forall_mem_singleton.mpr ⟨other, nothing⟩

/-- Giving the connection back is silent. -/
theorem silent_leave : Silent [⟨.leave, ()⟩] := silent_single (c := .leave) () nofun rfl

theorem silent_of_configure {parameters : List (List String)}
    {result : Except ExecutionError Unit} (h : (configure parameters).Yields events result) :
    Silent events := by
  intro e he
  have called := (sent_of_configure h).calls_follow.subset (List.mem_map_of_mem (f := (·.1)) he)
  obtain ⟨c, answer⟩ := e
  obtain ⟨_, _, rfl⟩ := List.mem_map.mp called
  exact ⟨nofun, rfl⟩

theorem streamed_error {e : ExecutionError} {wanted : Bool} :
    Streamed [⟨.emit (.error e), wanted⟩] where
  uncommitted := List.forall_mem_singleton.mpr nofun
  items := ⟨[], some e, rfl⟩

theorem streamed_of_emitRows {rows : List (Except DriverError (Option Json))}
    (h : (emitRows rows).Yields events ()) : Streamed events := by
  induction rows generalizing events with
  | nil =>
    obtain ⟨rfl, _⟩ := yields_pure.mp h
    exact ⟨List.forall_mem_nil _, [], none, rfl⟩
  | cons next rest ih =>
    rw [emitRows] at h
    cases hrow : next.bind (columnValue "row") with
    | error e =>
      rw [hrow] at h
      obtain ⟨wanted, last, rfl, hlast⟩ := yields_ask.mp h
      obtain ⟨rfl, _⟩ := yields_pure.mp hlast
      exact streamed_error
    | ok row =>
      rw [hrow] at h
      obtain ⟨wanted, later, rfl, hlater⟩ := yields_ask.mp h
      have rest : Streamed later := by
        split at hlater
        · exact ih hlater
        · obtain ⟨rfl, _⟩ := yields_pure.mp hlater
          exact ⟨List.forall_mem_nil _, [], none, rfl⟩
      obtain ⟨rows, failure, items⟩ := rest.items
      refine ⟨List.forall_mem_cons.mpr ⟨nofun, rest.uncommitted⟩, row :: rows, failure, ?_⟩
      rw [List.filterMap_cons, items]
      rfl

theorem streamed_of_stream {timeoutMs : Option Nat} {sql : String} {options : ExecutionOptions}
    (h : (stream timeoutMs sql options).Yields events ()) : Streamed events := by
  obtain ⟨opened, rest, rfl, hrest⟩ := yields_ask.mp h
  have opening : Silent [⟨.openTransaction, opened⟩] :=
    silent_single (c := .openTransaction) opened nofun rfl
  cases opened with
  | error e =>
    obtain ⟨wanted, last, rfl, hlast⟩ := yields_ask.mp hrest
    obtain ⟨rfl, _⟩ := yields_pure.mp hlast
    exact streamed_error.behind opening
  | ok _ =>
    obtain ⟨tried, configured, later, rfl, htried, hlater⟩ := yields_bind.mp hrest
    suffices streamed : Streamed later from
      (streamed.behind (silent_of_configure htried)).behind opening
    cases configured with
    | error e =>
      obtain ⟨wanted, last, rfl, hlast⟩ := yields_ask.mp hlater
      obtain rfl := yields_question.mp hlast
      exact streamed_error.before silent_leave
    | ok _ =>
      obtain ⟨rows, items, rfl, hitems⟩ := yields_ask.mp hlater
      obtain ⟨handed, _, last, rfl, hhanded, hlast⟩ := yields_bind.mp hitems
      obtain rfl := yields_question.mp hlast
      have fetching : Silent [⟨.fetchAll (perRow sql), rows⟩] :=
        silent_single (c := .fetchAll (perRow sql)) rows nofun rfl
      exact ((streamed_of_emitRows hhanded).before silent_leave).behind fetching

end Stream

/-! ### The discipline -/

/-- **Transactions are disciplined**, whatever the server answers. A statement alone is
committed in full or left uncommitted. Statements in one transaction have its settings made
before the first of them, and never again. A stream commits nothing and ends with its first
error. -/
theorem transactions_disciplined (timeoutMs : Option Nat) :
    (∀ sql options events result, (execute timeoutMs sql options).Yields events result →
      CommittedInFull timeoutMs sql options events result) ∧
    (∀ statements events result, (openAndRun timeoutMs statements).Yields events result →
      (∃ e, events = [⟨.openTransaction, .error e⟩]) ∨
        ∃ rest, events = ⟨.openTransaction, .ok ()⟩ :: rest ∧
          SettledOnce timeoutMs statements rest) ∧
    ∀ sql options events, (stream timeoutMs sql options).Yields events () → Streamed events := by
  refine ⟨fun _ _ _ _ => committedInFull_of_execute, fun statements events result h => ?_,
    fun _ _ _ => streamed_of_stream⟩
  obtain ⟨opening, opened, rest, rfl, hopening, hrest⟩ := yields_bind.mp h
  obtain ⟨answer, nothing, rfl, hnothing⟩ := yields_ask.mp hopening
  cases answer with
  | error e =>
    obtain ⟨rfl, rfl⟩ := yields_pure.mp hnothing
    obtain ⟨rfl, _⟩ := yields_pure.mp hrest
    exact .inl ⟨e, rfl⟩
  | ok _ =>
    obtain ⟨rfl, rfl⟩ := yields_pure.mp hnothing
    obtain ⟨_, hran, _⟩ := yields_map.mp hrest
    exact .inr ⟨rest, rfl, settledOnce_of_runAll hran⟩

/-- A server that refuses the second setting it is asked to make, and breaks off a stream in its
second row. It counts what it has executed. -/
def refusingSecond : (c : Call) → Nat → c.Answer × Nat
  | .openTransaction, n => (.ok (), n)
  | .execute .., n => (if n = 1 then .error (.server "refused") else .ok 0, n + 1)
  | .fetchFirst _, n => (.ok (some (some .null)), n)
  | .fetchAll _, n => ([.ok (some .null), .error .workerCrashed, .ok (some .null)], n)
  | .commit, n => (.ok (), n)
  | .rollback, n => (.ok (), n)
  | .leave, n => ((), n)
  | .emit _, n => (true, n)

/-- A query for which an encoding is set. -/
def inLatin1 : ExecutionOptions := { kind := .query, clientEncoding := some "LATIN1" }

/-- Queries for one transaction. -/
def threeQueries : List (String × ExecutionOptions) :=
  [("SELECT 1", inLatin1), ("SELECT 2", inLatin1), ("SELECT 3", inLatin1)]

/-- What is exchanged with that server about a query alone, for which a timeout is set. -/
def refusedAlone : List Exchange :=
  (execute (some 5) "SELECT 1" inLatin1).transcript refusingSecond 0

/-- What is exchanged with it about three queries in one transaction. -/
def refusedOnce : List Exchange :=
  (openAndRun (some 5) threeQueries).transcript refusingSecond 0

/-- What is exchanged with it about a stream. -/
def brokenOff : List Exchange := (stream none "SELECT 1" inLatin1).transcript refusingSecond 0

/-- The query alone is not sent. The transaction makes its settings for the second query, and
sends the third without them. -/
theorem refusingSecond_disciplined :
    (refusedAlone.map (·.1) = [.openTransaction, .execute setting ["client_encoding", "LATIN1"],
        .execute setting ["statement_timeout", "5"], .leave] ∧
      CommittedInFull (some 5) "SELECT 1" inLatin1 refusedAlone
        (.error (.statement "refused"))) ∧
    (refusedOnce.map (·.1) = [.openTransaction, .execute setting ["client_encoding", "LATIN1"],
        .execute setting ["statement_timeout", "5"],
        .execute setting ["client_encoding", "LATIN1"],
        .execute setting ["statement_timeout", "5"], .fetchFirst (aggregate "SELECT 2"),
        .fetchFirst (aggregate "SELECT 3")] ∧
      ∃ rest, refusedOnce = ⟨.openTransaction, .ok ()⟩ :: rest ∧
        SettledOnce (some 5) threeQueries rest) ∧
    brokenOff.filterMap Exchange.item? =
        [.ok .null, .error DriverError.workerCrashed.onStatement] ∧
      Streamed brokenOff := by
  refine ⟨⟨rfl, ?_⟩, ⟨rfl, ?_⟩, rfl, ?_⟩
  · exact (transactions_disciplined (some 5)).1 _ _ _ _ (yields_transcript refusingSecond _ 0)
  · rcases (transactions_disciplined (some 5)).2.1 _ _ _
      (yields_transcript refusingSecond _ 0) with ⟨_, refused⟩ | settled
    · cases refused
    · exact settled
  · exact (transactions_disciplined none).2.2 _ _ _ (yields_transcript refusingSecond _ 0)

end QueryGateway.Postgres
