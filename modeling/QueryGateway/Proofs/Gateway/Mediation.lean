import QueryGateway.Proofs.Gateway.Session

/-! Nothing reaches the database unless it was cleared.

Every route to the database (alone, through the cache, in a batch, as a stream) starts
behind a preparation that ended well, and hands on the very text that was prepared
(`runs_of_runPrepared`). What a job admits to the database stays admitted whatever else
happens before (`admitted_of_prepared`), so a batch is mediated step by step. -/
namespace QueryGateway

open Dialogue

/-- The text and the options with which a call runs a statement. -/
def Call.statement? : Call → Option (String × ExecutionOptions)
  | .execute sql options | .executeInBatch sql options | .stream sql options =>
    some (sql, options)
  | _ => none

/-- The call runs no statement, or one that a preparation in the same job has cleared: with
the options of the job, as a change if and only if it is no read, and as a stream only if it
is a read. -/
def Admitted (g : Gateway) (job : Job) (past : List Event) (call : Call) : Prop :=
  ∀ sql options, call.statement? = some (sql, options) → ∃ before asked after p,
    past = before ++ asked ++ after ∧
    (prepare g.policy (job.request.forStatement sql) job.account).Yields asked (.ok p) ∧
    Cleared g.policy job.account job.request.credentials sql p.operation p.relations asked ∧
    options = job.request.options options.kind ∧
    (options.kind = .mutation ↔ p.operation ≠ .read) ∧
    (call = .stream sql options → p.operation = .read)

/-- Every statement of a play is admitted by what happened before it in the play. -/
def Mediated (g : Gateway) (play : Play) : Prop :=
  ∀ before e after, play.events = before ++ e :: after → Admitted g play.job before e.1

/-- If the one statement of a play is refused, the authorizer alone has been asked, and the
answer is the refusal. -/
def Quiet (g : Gateway) (play : Play) : Prop :=
  play.job.alone = true → ∀ asked refusal rest,
    (prepare g.policy play.job.request play.job.account).Yields asked (.error refusal) →
    play.events = asked ++ rest →
    (∀ e ∈ play.events, e.Asks play.job.account.name) ∧
      play.answer = .envelope (g.failure refusal)

/-! ### Running what is prepared -/

/-- The event runs no statement, or the one that was prepared. -/
def Event.Runs (r : Request) (p : Prepared) (e : Event) : Prop :=
  ∀ sql options, e.1.statement? = some (sql, options) →
    sql = p.sql ∧ options = r.options (Gateway.kindOf p.operation) ∧
    (e.1 = .stream sql options → p.operation = .read)

theorem Event.Asks.runs_nothing {account : String} {e : Event} (h : e.Asks account) :
    e.1.statement? = none := by
  obtain ⟨q, hq⟩ := h
  rw [hq]
  rfl

section Running

variable {g : Gateway} {r : Request} {p : Prepared} {events : List Event}

theorem Event.runs_of_none {e : Event} (h : e.1.statement? = none) : e.Runs r p := by
  intro sql options hs
  rw [h] at hs
  cases hs

theorem runs_of_execute {kind : ExecutionKind} {result : Except Refusal Outcome}
    (hkind : kind = Gateway.kindOf p.operation)
    (h : (Gateway.execute p.sql (r.options kind)).Yields events result) :
    ∀ e ∈ events, e.Runs r p := by
  obtain ⟨answer, rest, rfl, hrest⟩ := yields_ask.mp h
  obtain ⟨rfl, _⟩ := yields_pure.mp hrest
  intro e he
  obtain rfl := List.mem_singleton.mp he
  intro sql options ran
  cases ran
  exact ⟨rfl, by rw [hkind], nofun⟩

theorem forall_mem_append_runs {first rest : List Event} (h : ∀ e ∈ first, e.Runs r p)
    (h' : ∀ e ∈ rest, e.Runs r p) : ∀ e ∈ first ++ rest, e.Runs r p :=
  fun e he => (List.mem_append.mp he).elim (h e) (h' e)

theorem forall_mem_cons_runs {first : Event} {rest : List Event}
    (h : first.1.statement? = none) (h' : ∀ e ∈ rest, e.Runs r p) :
    ∀ e ∈ first :: rest, e.Runs r p := by
  intro e he
  rcases List.mem_cons.mp he with rfl | he
  · exact Event.runs_of_none h
  · exact h' e he

theorem runs_of_runAndKeep {key : Cache.Key} {result : Except Refusal Envelope}
    (hread : p.operation = .read) (h : (g.runAndKeep r p key).Yields events result) :
    ∀ e ∈ events, e.Runs r p := by
  obtain ⟨first, outcome, rest, rfl, hexecute, hrest⟩ := yields_bind.mp h
  refine forall_mem_append_runs (runs_of_execute (by rw [hread]; rfl) hexecute) ?_
  split at hrest
  · obtain ⟨rfl, _⟩ := yields_pure.mp hrest
    exact List.forall_mem_nil _
  · split at hrest
    · obtain ⟨_, last, rfl, hlast⟩ := yields_ask.mp hrest
      obtain ⟨rfl, _⟩ := yields_pure.mp hlast
      exact forall_mem_cons_runs rfl (List.forall_mem_nil _)
    · obtain ⟨rfl, _⟩ := yields_pure.mp hrest
      exact List.forall_mem_nil _

theorem runs_of_runRead {result : Except Refusal Envelope} (hread : p.operation = .read)
    (h : (g.runRead r p).Yields events result) : ∀ e ∈ events, e.Runs r p := by
  unfold Gateway.runRead at h
  split at h
  · obtain ⟨found, rest, rfl, hrest⟩ := yields_ask.mp h
    refine forall_mem_cons_runs rfl ?_
    split at hrest
    · obtain ⟨rfl, _⟩ := yields_pure.mp hrest
      exact List.forall_mem_nil _
    · exact runs_of_runAndKeep hread hrest
  · obtain ⟨first, outcome, rest, rfl, hexecute, hrest⟩ := yields_bind.mp h
    refine forall_mem_append_runs (runs_of_execute (by rw [hread]; rfl) hexecute) ?_
    split at hrest <;>
    · obtain ⟨rfl, _⟩ := yields_pure.mp hrest
      exact List.forall_mem_nil _

/-- Whatever is prepared is run as it was prepared. -/
theorem runs_of_runPrepared {result : Except Refusal Envelope}
    (h : (g.runPrepared r p).Yields events result) : ∀ e ∈ events, e.Runs r p := by
  unfold Gateway.runPrepared at h
  split at h
  · exact runs_of_runRead ‹_› h
  · rename_i hne
    have hkind : ExecutionKind.mutation = Gateway.kindOf p.operation := by
      cases ho : p.operation with
      | read => exact absurd ho hne
      | write => rfl
      | createWithKey => rfl
    obtain ⟨first, outcome, rest, rfl, hexecute, hrest⟩ := yields_bind.mp h
    refine forall_mem_append_runs (runs_of_execute hkind hexecute) ?_
    split at hrest <;>
    · obtain ⟨rfl, _⟩ := yields_pure.mp hrest
      exact List.forall_mem_nil _

end Running

/-! ### Admission -/

theorem kindOf_eq_mutation {operation : Operation} :
    Gateway.kindOf operation = .mutation ↔ operation ≠ .read := by
  cases operation <;> decide

theorem admitted_of_none {g : Gateway} {job : Job} {past : List Event} {call : Call}
    (h : call.statement? = none) : Admitted g job past call := by
  intro sql options hs
  rw [h] at hs
  cases hs

section Admission

variable {g : Gateway} {job : Job} {past asked : List Event}

/-- What is run as it was prepared is admitted at any time after the preparation. -/
theorem admitted_of_prepared {sql : String} {p : Prepared}
    (prepared : (prepare g.policy (job.request.forStatement sql) job.account).Yields asked (.ok p))
    (after : List Event) {e : Event} (runs : e.Runs (job.request.forStatement sql) p) :
    Admitted g job (past ++ asked ++ after) e.1 := by
  intro sql' options hs
  obtain ⟨hsql, cleared⟩ := cleared_of_prepare prepared
  obtain ⟨rfl, rfl, hstream⟩ := runs sql' options hs
  rw [hsql]
  refine ⟨past, asked, after, p, rfl, prepared, cleared, rfl, kindOf_eq_mutation, fun hcall => ?_⟩
  exact hstream (by rw [hcall, hsql])

theorem guarded_of_asks {account : String} (h : ∀ e ∈ asked, e.Asks account) :
    Guarded (Admitted g job) past asked :=
  guarded_of_forall fun e he _ => admitted_of_none (h e he).runs_nothing

/-- Whatever goes on behind a preparation is admitted, if it ends where the preparation
fails and otherwise runs nothing but what was prepared. -/
theorem guarded_of_prepare (job : Job) {sql : String} {events : List Event} {β : Type} {b : β}
    {next : Except Refusal Prepared → Consultation β}
    (h : (prepare g.policy (job.request.forStatement sql) job.account >>= next).Yields events b)
    (ends : ∀ refusal rest, (next (.error refusal)).Yields rest b → rest = [])
    (runs : ∀ p (rest : List Event), (next (.ok p)).Yields rest b →
      ∀ e ∈ rest, e.Runs (job.request.forStatement sql) p) :
    Guarded (Admitted g job) past events := by
  obtain ⟨asked, result, rest, rfl, prepared, hrest⟩ := yields_bind.mp h
  refine guarded_append.mpr ⟨guarded_of_asks (asks_of_prepare prepared), ?_⟩
  cases result with
  | error refusal =>
    rw [ends refusal rest hrest]
    trivial
  | ok p =>
    refine guarded_of_forall fun e he after => ?_
    exact admitted_of_prepared prepared after (runs p rest hrest e he)

end Admission

/-! ### Statements run alone -/

section Alone

variable {g : Gateway} {r : Request} {account : AccountContext} {events : List Event}

theorem guarded_of_runSingle {answer : Envelope}
    (h : (g.runSingle r account).Yields events answer) :
    Guarded (Admitted g (.single r account)) [] events := by
  refine guarded_of_prepare (.single r account) h (fun _ _ hrest => (yields_pure.mp hrest).1) ?_
  intro p rest hrest
  obtain ⟨_, hran, _⟩ := yields_map.mp hrest
  exact runs_of_runPrepared hran

theorem guarded_of_openStream {answer : StreamAnswer}
    (h : (g.openStream r account).Yields events answer) :
    Guarded (Admitted g (.stream r account)) [] events := by
  refine guarded_of_prepare (.stream r account) h (fun _ _ hrest => (yields_pure.mp hrest).1) ?_
  intro p rest hrest
  have hrest : (if p.operation = .read then
      (Call.stream p.sql (r.options .query)).put >>= fun rows => pure (.rows rows)
    else g.runPrepared r p >>= fun e => pure (.envelope (g.settle e))).Yields rest answer := hrest
  split at hrest
  · rename_i hread
    obtain ⟨_, hput, _⟩ := yields_map.mp hrest
    intro e he
    rw [yields_question.mp hput] at he
    obtain rfl := List.mem_singleton.mp he
    intro sql options ran
    cases ran
    exact ⟨rfl, by rw [hread]; rfl, fun _ => hread⟩
  · obtain ⟨_, hran, _⟩ := yields_map.mp hrest
    exact runs_of_runPrepared hran

end Alone

/-! ### Batches -/

section Batch

variable {g : Gateway} {text : String} {template : Request} {account : AccountContext}
  {past events : List Event}

theorem guarded_of_runStep {sql : String} {result : Except Refusal (Prepared × Outcome)}
    (h : (g.runStep (template.forStatement sql) account).Yields events result) :
    Guarded (Admitted g (.batch text template account)) past events := by
  refine guarded_of_prepare (.batch text template account) h
    (fun _ _ hrest => (yields_pure.mp hrest).1) ?_
  intro p rest hrest
  obtain ⟨answer, last, rfl, hlast⟩ := yields_ask.mp hrest
  have ended : last = [] := by
    split at hlast <;> exact (yields_pure.mp hlast).1
  intro e he
  rw [ended] at he
  obtain rfl := List.mem_singleton.mp he
  intro sql options ran
  cases ran
  exact ⟨rfl, rfl, nofun⟩

/-- Each step of a batch clears its statement itself, whatever happened before. -/
theorem guarded_of_runSteps {sqls : List String} {last : Option (Prepared × Outcome)}
    {result : Except Refusal (Option (Prepared × Outcome))}
    (h : (g.runSteps template account sqls last).Yields events result) :
    Guarded (Admitted g (.batch text template account)) past events := by
  induction sqls generalizing last past events with
  | nil =>
    obtain ⟨rfl, _⟩ := yields_pure.mp h
    trivial
  | cons sql rest ih =>
    obtain ⟨first, step, later, rfl, hstep, hlater⟩ := yields_bind.mp h
    refine guarded_append.mpr ⟨guarded_of_runStep hstep, ?_⟩
    split at hlater
    · obtain ⟨rfl, _⟩ := yields_pure.mp hlater
      trivial
    · exact ih hlater

theorem guarded_of_runBatch {answer : Envelope}
    (h : (g.runBatch text template account).Yields events answer) :
    Guarded (Admitted g (.batch text template account)) [] events := by
  obtain ⟨_, rest, rfl, hrest⟩ := yields_ask.mp h
  refine ⟨admitted_of_none rfl, ?_⟩
  split at hrest
  · obtain ⟨rfl, _⟩ := yields_pure.mp hrest
    trivial
  · obtain ⟨steps, _, ending, rfl, hsteps, hending⟩ := yields_bind.mp hrest
    refine guarded_append.mpr ⟨guarded_of_runSteps hsteps, ?_⟩
    split at hending
    · obtain ⟨_, last, rfl, hlast⟩ := yields_ask.mp hending
      obtain ⟨rfl, _⟩ := yields_pure.mp hlast
      exact ⟨admitted_of_none rfl, trivial⟩
    · obtain ⟨_, last, rfl, hlast⟩ := yields_ask.mp hending
      have ended : last = [] := by
        split at hlast <;> exact (yields_pure.mp hlast).1
      rw [ended]
      exact ⟨admitted_of_none rfl, trivial⟩

end Batch

/-! ### Sessions -/

theorem mediated_of_perform {g : Gateway} {play : Play}
    (h : (g.perform play.job).Yields play.events play.answer) : Mediated g play := by
  have guarded : Guarded (Admitted g play.job) [] play.events := by
    obtain ⟨job, events, answer⟩ := play
    cases job with
    | single r account =>
      obtain ⟨_, hran, _⟩ := yields_map.mp h
      exact guarded_of_runSingle hran
    | batch text template account =>
      obtain ⟨_, hran, _⟩ := yields_map.mp h
      exact guarded_of_runBatch hran
    | stream r account => exact guarded_of_openStream h
  intro before e after hevents
  rw [hevents] at guarded
  exact guarded.admitted

theorem quiet_of_perform {g : Gateway} {play : Play}
    (h : (g.perform play.job).Yields play.events play.answer) : Quiet g play := by
  obtain ⟨job, events, answer⟩ := play
  intro alone asked refusal rest refused hevents
  obtain rfl : events = asked ++ rest := hevents
  have quiet {answer' : StreamAnswer} (hrest : rest = []) (hanswer : answer = answer') :
      (∀ e ∈ asked ++ rest, Event.Asks job.account.name e) ∧ answer = answer' := by
    rw [hrest, List.append_nil]
    exact ⟨asks_of_prepare refused, hanswer⟩
  cases job with
  | single r account =>
    obtain ⟨_, hran, hanswer⟩ := yields_map.mp h
    obtain ⟨asked', result, rest', hsame, hasked, hrest⟩ := yields_bind.mp hran
    obtain ⟨rfl, rfl, rfl⟩ := refused.unique hasked hsame
    obtain ⟨hnil, rfl⟩ := yields_pure.mp hrest
    exact quiet hnil hanswer
  | batch _ _ _ => cases alone
  | stream r account =>
    obtain ⟨asked', result, rest', hsame, hasked, hrest⟩ := yields_bind.mp h
    obtain ⟨rfl, rfl, rfl⟩ := refused.unique hasked hsame
    obtain ⟨hnil, hanswer⟩ := yields_pure.mp hrest
    exact quiet hnil hanswer

/-- **Complete mediation**: in every session, whatever the collaborators answer, a statement
reaches the database only behind its own clearance in the same job, and where the one
statement of a job is refused nothing is asked but the authorizer. -/
theorem session_mediated (g : Gateway) (jobs : List Job) (events : List Event)
    (answers : List StreamAnswer) (h : (g.serve jobs).Yields events answers) :
    ∃ plays : List Play, plays.map Play.job = jobs ∧ plays.flatMap Play.events = events ∧
      plays.map Play.answer = answers ∧
      ∀ play ∈ plays, (g.perform play.job).Yields play.events play.answer ∧
        Mediated g play ∧ Quiet g play := by
  obtain ⟨plays, hjobs, hevents, hanswers, hplays⟩ := exists_plays_of_serve h
  refine ⟨plays, hjobs, hevents, hanswers, fun play hplay => ?_⟩
  have performed := hplays play hplay
  exact ⟨performed, mediated_of_perform performed, quiet_of_perform performed⟩

/-- A change run alone, a read streamed, and a batch of one read. -/
def trialJobs : List Job :=
  let account : AccountContext := ⟨"demo", some "key"⟩
  [.single { sql := "INSERT INTO t VALUES (1)" } account, .stream { sql := "SELECT 1" } account,
    .batch "SELECT 1" { sql := "" } account]

theorem trialJobs_mediated :
    ((({} : Gateway).serve trialJobs).transcript agreeable ()).map (·.1) =
      [.authorize "demo" ⟨"t", {}, true, ["t"]⟩,
        .execute "INSERT INTO t VALUES (1)" { kind := .mutation },
        .stream "SELECT 1" { kind := .query },
        .openBatch, .executeInBatch "SELECT 1" { kind := .query }, .commit] ∧
    ∃ plays : List Play, plays.map Play.job = trialJobs ∧
      plays.flatMap Play.events = (({} : Gateway).serve trialJobs).transcript agreeable () ∧
      plays.map Play.answer = ((({} : Gateway).serve trialJobs).run agreeable ()).1 ∧
      ∀ play ∈ plays, (({} : Gateway).perform play.job).Yields play.events play.answer ∧
        Mediated {} play ∧ Quiet {} play :=
  ⟨by decide +kernel, session_mediated {} trialJobs _ _ (yields_transcript agreeable _ ())⟩

end QueryGateway
