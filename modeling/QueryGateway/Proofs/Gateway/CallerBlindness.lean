import QueryGateway.Proofs.Gateway.StoreCalls

/-! What the store holds does not depend on who asks.

Two histories with the same statements, lifetimes and options, whose statements all pass their
gates, may differ in accounts, credentials and everything that the authorizer does. Behind their
gates they are twins: the others are asked the same, answer the same and are left the same
(`Twin`). One lemma for each way to put dialogues together carries this from the gate
(`twin_gate`) to a session (`twin_serve`). -/
namespace QueryGateway

open Dialogue

/-! ### Who asks -/

/-- The request without what tells who asks. -/
def Request.anonymous (r : Request) : Request :=
  { r with apiKey := none, subuser := none, stream := false }

/-- What goes with the statements of a batch: the text in its template is never read. -/
def Request.terms (r : Request) : Request := r.anonymous.forStatement ""

/-- The job without what tells who asks. -/
def Job.anonymous : Job → Job
  | .single r _ => .single r.anonymous ⟨"", none⟩
  | .batch text template _ => .batch text template.terms ⟨"", none⟩
  | .stream r _ => .stream r.anonymous ⟨"", none⟩

/-- A cleared statement without the verdict on it. -/
def Prepared.anonymous (p : Prepared) : Prepared := { p with verdict := none }

/-- The envelope without what the authorizer said. -/
def Envelope.anonymous (e : Envelope) : Envelope := { e with authCheck := none }

/-- The answer without what the authorizer said. -/
def StreamAnswer.anonymous : StreamAnswer → StreamAnswer
  | .rows items => .rows items
  | .envelope e => .envelope e.anonymous

/-! ### Accepted requests -/

namespace Gateway

variable {σ : Type} (g : Gateway) (reply : (c : Call) → σ → c.Answer × σ)

/-- Whether a request passes its gate. -/
def passes (r : Request) (account : AccountContext) (s : σ) : Bool :=
  ((prepare g.policy r account).run reply s).1.isOk

/-- Whether all statements pass their gates that a batch comes to. -/
def acceptsLines (template : Request) (account : AccountContext) : List String → σ → Bool
  | [], _ => true
  | sql :: rest, s =>
    g.passes reply (template.forStatement sql) account s &&
      match (g.runStep (template.forStatement sql) account).run reply s with
      | (.ok _, s') => acceptsLines template account rest s'
      | (.error _, _) => true

/-- Whether a job is accepted: all statements pass their gates that it comes to. -/
def accepts : Job → σ → Bool
  | .single r account, s | .stream r account, s => g.passes reply r account s
  | .batch text template account, s =>
    match reply .openBatch s with
    | (.ok _, s') => g.acceptsLines reply template account (statements text) s'
    | (.error _, _) => true

/-- Whether all jobs of a session are accepted. -/
def acceptsAll : List Job → σ → Bool
  | [], _ => true
  | job :: jobs, s =>
    g.accepts reply job s && acceptsAll jobs ((g.perform job).run reply s).2

end Gateway

/-! ### Twins -/

section Twins

variable {α α' β γ δ ε ζ : Type} (authorize : String → Question → α → Verdict × α)
  (authorize' : String → Question → α' → Verdict × α') (behind : (c : Call) → β → c.Answer × β)

/-- Two computations, each with an authorizer of its own, that end in values which a view does
not tell apart. The others are asked the same and left the same. -/
structure Twin (view : γ → δ) (d d' : Consultation γ) (a : α) (a' : α') (b : β) : Prop where
  value : view (d.run (answerApart authorize behind) (a, b)).1 =
    view (d'.run (answerApart authorize' behind) (a', b)).1
  left : (d.run (answerApart authorize behind) (a, b)).2.2 =
    (d'.run (answerApart authorize' behind) (a', b)).2.2
  asked : behindGate (d.transcript (answerApart authorize behind) (a, b)) =
    behindGate (d'.transcript (answerApart authorize' behind) (a', b))

variable {authorize authorize' behind} {view : γ → δ} {view' : ε → ζ} {d d' : Consultation γ}
  {f f' : γ → Consultation ε} {a : α} {a' : α'} {b : β}

theorem Twin.pure {x x' : γ} (same : view x = view x') :
    Twin authorize authorize' behind view (Pure.pure x) (Pure.pure x') a a' b :=
  ⟨same, rfl, rfl⟩

/-- Twins go on as twins if the values with which they end lead to twins. -/
theorem Twin.bind (h : Twin authorize authorize' behind view d d' a a' b)
    (next : ∀ x x' a₁ a₁' b₁, d.run (answerApart authorize behind) (a, b) = (x, (a₁, b₁)) →
      d'.run (answerApart authorize' behind) (a', b) = (x', (a₁', b₁)) → view x = view x' →
      Twin authorize authorize' behind view' (f x) (f' x') a₁ a₁' b₁) :
    Twin authorize authorize' behind view' (d >>= f) (d' >>= f') a a' b := by
  obtain ⟨value, left, asked⟩ := h
  rcases hran : d.run (answerApart authorize behind) (a, b) with ⟨x, a₁, b₁⟩
  rcases hran' : d'.run (answerApart authorize' behind) (a', b) with ⟨x', a₁', b₁'⟩
  rw [hran, hran'] at value left
  obtain rfl := left
  obtain ⟨value', left', asked'⟩ := next x x' a₁ a₁' b₁ hran hran' value
  constructor
  · rw [run_bind, run_bind, hran, hran']
    exact value'
  · rw [run_bind, run_bind, hran, hran']
    exact left'
  · rw [transcript_bind, transcript_bind, hran, hran', behindGate_append, behindGate_append, asked]
    exact congrArg _ asked'

theorem Twin.map (h : Twin authorize authorize' behind view d d' a a' b) {g g' : γ → ε}
    (next : ∀ x x', view x = view x' → view' (g x) = view' (g' x')) :
    Twin authorize authorize' behind view' (g <$> d) (g' <$> d') a a' b :=
  h.bind fun x x' _ _ _ _ _ same => .pure (next x x' same)

/-- What is asked of the others is answered the same. -/
theorem twin_put {c : Call} (other : c.asksAuthorizer = false) :
    Twin authorize authorize' behind id c.put c.put a a' b := by
  have answered := answerApart_other authorize behind other a b
  have answered' := answerApart_other authorize' behind other a' b
  constructor
  · show (answerApart authorize behind c (a, b)).1 = (answerApart authorize' behind c (a', b)).1
    rw [answered, answered']
  · show (answerApart authorize behind c (a, b)).2.2 = (answerApart authorize' behind c (a', b)).2.2
    rw [answered, answered']
  · show behindGate [⟨c, (answerApart authorize behind c (a, b)).1⟩] =
      behindGate [⟨c, (answerApart authorize' behind c (a', b)).1⟩]
    rw [answered, answered']

/-- What asks no authorizer has itself for a twin, up to what a view leaves out. -/
theorem twin_of_map_eq (h : d.Only fun c => c.asksAuthorizer = false)
    (h' : d'.Only fun c => c.asksAuthorizer = false) (same : view <$> d = view <$> d') :
    Twin authorize authorize' behind view d d' a a' b := by
  obtain ⟨ran, asked⟩ := run_behind authorize behind h a b
  obtain ⟨ran', asked'⟩ := run_behind authorize' behind h' a' b
  have viewed := congrArg (fun d => d.run behind b) same
  have events := congrArg (fun d => d.transcript behind b) same
  simp only [run_map, transcript_map, Prod.mk.injEq] at viewed events
  constructor
  · rw [ran, ran']
    exact viewed.1
  · rw [ran, ran']
    exact viewed.2
  · rw [asked, asked', events]

/-! ### One job -/

section Jobs

variable {g : Gateway} {r r' : Request} {account account' : AccountContext}

/-- What is prepared is told by the text, but for the verdict. -/
theorem anonymous_of_prepare {policy : Policy} {p : Prepared} {events : List Event}
    (h : (prepare policy r account).Yields events (.ok p)) : ∃ found,
    inspect policy r.sql = .ok found ∧
      p.anonymous = ⟨r.sql, found.operation, found.relations, none⟩ := by
  rcases prepare_cases h with ⟨_, _, _, h⟩ | ⟨found, _, hfound, _, hresult⟩
  · cases h
  · rcases hresult with ⟨_, _, h⟩ | ⟨_, _, h⟩ | ⟨_, _, _, h⟩
    · cases h
    · cases h
    · cases h
      exact ⟨found, hfound, rfl⟩

/-- A gate that lets pass has prepared something. -/
theorem prepared_of_passes {σ : Type} {reply : (c : Call) → σ → c.Answer × σ} {s : σ}
    (passes : g.passes reply r account s = true) : ∃ p,
    ((prepare g.policy r account).run reply s).1 = .ok p ∧
      (prepare g.policy r account).Yields ((prepare g.policy r account).transcript reply s)
        (.ok p) := by
  have prepared := yields_transcript reply (prepare g.policy r account) s
  rw [Gateway.passes] at passes
  cases h : ((prepare g.policy r account).run reply s).1 with
  | error refusal =>
    rw [h] at passes
    cases passes
  | ok p =>
    rw [h] at prepared
    exact ⟨p, rfl, prepared⟩

/-- Behind two gates that let pass the same text there is the same, but for the verdict. -/
theorem twin_gate (sql : r.sql = r'.sql)
    (passes : g.passes (answerApart authorize behind) r account (a, b) = true)
    (passes' : g.passes (answerApart authorize' behind) r' account' (a', b) = true)
    {f f' : Except Refusal Prepared → Consultation ε}
    (next : ∀ p p' a₁ a₁', p.anonymous = p'.anonymous →
      Twin authorize authorize' behind view' (f (.ok p)) (f' (.ok p')) a₁ a₁' b) :
    Twin authorize authorize' behind view' (prepare g.policy r account >>= f)
      (prepare g.policy r' account' >>= f') a a' b := by
  obtain ⟨p, ended, prepared⟩ := prepared_of_passes passes
  obtain ⟨p', ended', prepared'⟩ := prepared_of_passes passes'
  obtain ⟨found, hfound, cleared⟩ := anonymous_of_prepare prepared
  obtain ⟨found', hfound', cleared'⟩ := anonymous_of_prepare prepared'
  obtain ⟨_, a₁, _, ran⟩ := run_gate authorize behind (only_authorizer_prepare g.policy r account) a
  obtain ⟨_, a₁', _, ran'⟩ :=
    run_gate authorize' behind (only_authorizer_prepare g.policy r' account') a'
  have ended : (prepare g.policy r account).run (answerApart authorize behind) (a, b) =
      (.ok p, (a₁, b)) := by
    rw [(ran b).1] at ended ⊢
    rw [← ended]
  have ended' : (prepare g.policy r' account').run (answerApart authorize' behind) (a', b) =
      (.ok p', (a₁', b)) := by
    rw [(ran' b).1] at ended' ⊢
    rw [← ended']
  have gates : Twin authorize authorize' behind (fun _ => ()) (prepare g.policy r account)
      (prepare g.policy r' account') a a' b := by
    refine ⟨rfl, by rw [ended, ended'], ?_⟩
    rw [behindGate_eq_nil (only_authorizer_prepare _ _ _ _ _ prepared),
      behindGate_eq_nil (only_authorizer_prepare _ _ _ _ _ prepared')]
  refine gates.bind fun x x' a₂ a₂' b₁ hx hx' _ => ?_
  cases hx.symm.trans ended
  cases hx'.symm.trans ended'
  refine next p p' _ _ ?_
  rw [← sql, hfound] at hfound'
  cases hfound'
  rw [cleared, cleared', sql]

theorem counterparts_anonymous (g : Gateway) (r : Request) (p : Prepared) :
    Counterparts Envelope.anonymous g g r r.anonymous p p.anonymous :=
  ⟨rfl, rfl, rfl, rfl, rfl, fun _ _ => rfl⟩

theorem twin_runPrepared (same : r.anonymous = r'.anonymous) {p p' : Prepared}
    (cleared : p.anonymous = p'.anonymous) :
    Twin authorize authorize' behind (Except.map Envelope.anonymous) (g.runPrepared r p)
      (g.runPrepared r' p') a a' b := by
  refine twin_of_map_eq (only_others_runPrepared g r p) (only_others_runPrepared g r' p') ?_
  rw [← (counterparts_anonymous g r p).runPrepared, same, cleared,
    (counterparts_anonymous g r' p').runPrepared]

theorem anonymous_settle {x x' : Except Refusal Envelope}
    (same : x.map Envelope.anonymous = x'.map Envelope.anonymous) :
    (g.settle x).anonymous = (g.settle x').anonymous := by
  cases x with
  | error refusal =>
    cases x' with
    | error refusal' => rw [Except.error.inj same]
    | ok => nomatch same
  | ok e =>
    cases x' with
    | error => nomatch same
    | ok e' => exact Except.ok.inj same

theorem sql_of_anonymous (same : r.anonymous = r'.anonymous) : r.sql = r'.sql :=
  show r.anonymous.sql = r'.anonymous.sql from congrArg Request.sql same

theorem options_of_anonymous (same : r.anonymous = r'.anonymous) : r.options = r'.options :=
  show r.anonymous.options = r'.anonymous.options from congrArg Request.options same

theorem cleared_alike {p p' : Prepared} (cleared : p.anonymous = p'.anonymous) :
    p.sql = p'.sql ∧ p.operation = p'.operation :=
  ⟨show p.anonymous.sql = p'.anonymous.sql from congrArg Prepared.sql cleared,
    show p.anonymous.operation = p'.anonymous.operation from congrArg Prepared.operation cleared⟩

theorem twin_runSingle (same : r.anonymous = r'.anonymous)
    (passes : g.passes (answerApart authorize behind) r account (a, b) = true)
    (passes' : g.passes (answerApart authorize' behind) r' account' (a', b) = true) :
    Twin authorize authorize' behind Envelope.anonymous (g.runSingle r account)
      (g.runSingle r' account') a a' b := by
  refine twin_gate (sql_of_anonymous same) passes passes' fun p p' a₁ a₁' cleared => ?_
  exact (twin_runPrepared same cleared).map fun _ _ => anonymous_settle

theorem twin_openStream (same : r.anonymous = r'.anonymous)
    (passes : g.passes (answerApart authorize behind) r account (a, b) = true)
    (passes' : g.passes (answerApart authorize' behind) r' account' (a', b) = true) :
    Twin authorize authorize' behind StreamAnswer.anonymous (g.openStream r account)
      (g.openStream r' account') a a' b := by
  refine twin_gate (sql_of_anonymous same) passes passes' fun p p' a₁ a₁' cleared => ?_
  obtain ⟨sql, operation⟩ := cleared_alike cleared
  dsimp only
  rw [sql, operation, options_of_anonymous same]
  split
  · exact (twin_put rfl).bind fun _ _ _ _ _ _ _ rows => .pure (congrArg StreamAnswer.rows rows)
  · exact (twin_runPrepared same cleared).map fun _ _ same =>
      congrArg StreamAnswer.envelope (anonymous_settle same)

theorem twin_runStep (same : r.anonymous = r'.anonymous)
    (passes : g.passes (answerApart authorize behind) r account (a, b) = true)
    (passes' : g.passes (answerApart authorize' behind) r' account' (a', b) = true) :
    Twin authorize authorize' behind (Except.map (Prod.map Prepared.anonymous id))
      (g.runStep r account) (g.runStep r' account') a a' b := by
  refine twin_gate (sql_of_anonymous same) passes passes' fun p p' a₁ a₁' cleared => ?_
  obtain ⟨sql, operation⟩ := cleared_alike cleared
  dsimp only
  rw [sql, operation, options_of_anonymous same]
  refine (twin_put rfl).bind fun answer answer' _ _ _ _ _ answered => ?_
  cases answered
  cases answer with
  | error e => exact .pure rfl
  | ok outcome => exact .pure (congrArg (fun p => Except.ok (p, outcome)) cleared)

/-- The last step of a batch, without the verdict on it. -/
def lastAnonymous : Option (Prepared × Outcome) → Option (Prepared × Outcome) :=
  Option.map (Prod.map Prepared.anonymous id)

theorem twin_runSteps (same : r.terms = r'.terms) (sqls : List String)
    {last last' : Option (Prepared × Outcome)} (lasts : lastAnonymous last = lastAnonymous last')
    (accepted : g.acceptsLines (answerApart authorize behind) r account sqls (a, b) = true)
    (accepted' : g.acceptsLines (answerApart authorize' behind) r' account' sqls (a', b) = true) :
    Twin authorize authorize' behind (Except.map lastAnonymous) (g.runSteps r account sqls last)
      (g.runSteps r' account' sqls last') a a' b := by
  induction sqls generalizing last last' a a' b with
  | nil => exact .pure (congrArg Except.ok lasts)
  | cons sql rest ih =>
    rw [Gateway.acceptsLines, Bool.and_eq_true] at accepted accepted'
    have line : (r.forStatement sql).anonymous = (r'.forStatement sql).anonymous :=
      congrArg (Request.forStatement · sql) same
    refine (twin_runStep line accepted.1 accepted'.1).bind fun x x' a₁ a₁' b₁ ran ran' steps => ?_
    rw [ran] at accepted
    rw [ran'] at accepted'
    match x, x', steps with
    | .error refusal, .error refusal', steps =>
      exact .pure (congrArg Except.error (Except.error.inj steps))
    | .ok step, .ok step', steps =>
      exact ih (congrArg some (Except.ok.inj steps)) accepted.2 accepted'.2

theorem anonymous_batchEnvelope {last last' : Option (Prepared × Outcome)}
    (lasts : lastAnonymous last = lastAnonymous last') (count : Nat) :
    (g.batchEnvelope last count).anonymous = (g.batchEnvelope last' count).anonymous := by
  match last, last', lasts with
  | none, none, _ => rfl
  | some (p, outcome), some (p', outcome'), lasts =>
    cases congrArg Prod.snd (Option.some.inj lasts)
    rfl

theorem twin_runBatch (same : r.terms = r'.terms) (text : String)
    (accepted : g.accepts (answerApart authorize behind) (.batch text r account) (a, b) = true)
    (accepted' : g.accepts (answerApart authorize' behind) (.batch text r' account') (a', b) =
      true) :
    Twin authorize authorize' behind Envelope.anonymous (g.runBatch text r account)
      (g.runBatch text r' account') a a' b := by
  refine (twin_put rfl).bind fun begun begun' a₁ a₁' b₁ ran ran' opened => ?_
  cases opened
  have ran : answerApart authorize behind .openBatch (a, b) = (begun, (a₁, b₁)) := ran
  have ran' : answerApart authorize' behind .openBatch (a', b) = (begun, (a₁', b₁)) := ran'
  rw [Gateway.accepts, ran] at accepted
  rw [Gateway.accepts, ran'] at accepted'
  cases begun with
  | error e => exact .pure rfl
  | ok _ =>
    have start : lastAnonymous none = lastAnonymous none := rfl
    have steps := twin_runSteps same (Gateway.statements text) start accepted accepted'
    refine steps.bind fun x x' _ _ _ _ _ steps => ?_
    match x, x', steps with
    | .error refusal, .error refusal', steps =>
      cases Except.error.inj steps
      exact (twin_put rfl).bind fun _ _ _ _ _ _ _ _ => .pure rfl
    | .ok last, .ok last', steps =>
      refine (twin_put rfl).bind fun committed committed' _ _ _ _ _ same => ?_
      cases same
      cases committed with
      | error e => exact .pure rfl
      | ok _ => exact .pure (anonymous_batchEnvelope (Except.ok.inj steps) _)

/-- Jobs that differ in who asks, and are accepted for both, are twins. -/
theorem twin_perform {job job' : Job} (same : job.anonymous = job'.anonymous)
    (accepted : g.accepts (answerApart authorize behind) job (a, b) = true)
    (accepted' : g.accepts (answerApart authorize' behind) job' (a', b) = true) :
    Twin authorize authorize' behind StreamAnswer.anonymous (g.perform job) (g.perform job')
      a a' b := by
  cases job with
  | single r account =>
    cases job' with
    | single r' account' =>
      exact (twin_runSingle (Job.single.inj same).1 accepted accepted').map fun _ _ same =>
        congrArg StreamAnswer.envelope same
    | batch | stream => cases same
  | batch text r account =>
    cases job' with
    | batch text' r' account' =>
      obtain ⟨rfl, terms, _⟩ := Job.batch.inj same
      exact (twin_runBatch terms text accepted accepted').map fun _ _ same =>
        congrArg StreamAnswer.envelope same
    | single | stream => cases same
  | stream r account =>
    cases job' with
    | stream r' account' => exact twin_openStream (Job.stream.inj same).1 accepted accepted'
    | single | batch => cases same

/-- Sessions that differ in who asks, and are accepted for both, are twins. -/
theorem twin_serve {jobs jobs' : List Job}
    (same : jobs.map Job.anonymous = jobs'.map Job.anonymous)
    (accepted : g.acceptsAll (answerApart authorize behind) jobs (a, b) = true)
    (accepted' : g.acceptsAll (answerApart authorize' behind) jobs' (a', b) = true) :
    Twin authorize authorize' behind (List.map StreamAnswer.anonymous) (g.serve jobs)
      (g.serve jobs') a a' b := by
  induction jobs generalizing jobs' a a' b with
  | nil =>
    obtain rfl := List.map_eq_nil_iff.mp same.symm
    exact .pure rfl
  | cons job jobs ih =>
    obtain ⟨job', later, rfl, first, rest⟩ := List.map_eq_cons_iff.mp same.symm
    rw [Gateway.acceptsAll, Bool.and_eq_true] at accepted accepted'
    refine (twin_perform first.symm accepted.1 accepted'.1).bind
      fun x x' a₁ a₁' b₁ ran ran' answers => ?_
    rw [ran] at accepted
    rw [ran'] at accepted'
    refine (ih rest.symm accepted.2 accepted'.2).map fun xs xs' sames => ?_
    rw [List.map_cons, List.map_cons, answers, sames]

end Jobs

end Twins

/-! ### The store -/

/-- **What the store holds depends on statements, outcomes and time only**, and what it hands
out carries the verdict of the request it is handed out to. In every session, whatever is
answered, a play gives to the store what it has earned and nothing else, and batches and streams
leave the store alone. So two sessions that differ in who asks and in what the authorizer does,
and are accepted, give the same to the store: all that is asked of it and of the database is the
same, and so are the answers, but for what the authorizer said. -/
theorem store_blind_to_callers (g : Gateway) :
    (∀ jobs events answers, (g.serve jobs).Yields events answers →
      ∃ plays : List Play, plays.map Play.job = jobs ∧ plays.flatMap Play.events = events ∧
        plays.map Play.answer = answers ∧
        ∀ play ∈ plays, (g.perform play.job).Yields play.events play.answer ∧ Discreet g play) ∧
    ∀ {α α' β : Type} (authorize : String → Question → α → Verdict × α)
      (authorize' : String → Question → α' → Verdict × α')
      (behind : (c : Call) → β → c.Answer × β) (a : α) (a' : α') (b : β) (jobs jobs' : List Job),
      jobs.map Job.anonymous = jobs'.map Job.anonymous →
      let world := answerApart authorize behind
      let world' := answerApart authorize' behind
      g.acceptsAll world jobs (a, b) = true → g.acceptsAll world' jobs' (a', b) = true →
      let events := (g.serve jobs).transcript world (a, b)
      let events' := (g.serve jobs').transcript world' (a', b)
      puts events = puts events' ∧ behindGate events = behindGate events' ∧
        ((g.serve jobs).run world (a, b)).2.2 = ((g.serve jobs').run world' (a', b)).2.2 ∧
        ((g.serve jobs).run world (a, b)).1.map StreamAnswer.anonymous =
          ((g.serve jobs').run world' (a', b)).1.map StreamAnswer.anonymous := by
  constructor
  · intro jobs events answers h
    obtain ⟨plays, hjobs, hevents, hanswers, hplays⟩ := exists_plays_of_serve h
    exact ⟨plays, hjobs, hevents, hanswers,
      fun play hplay => ⟨hplays play hplay, discreet_of_perform (hplays play hplay)⟩⟩
  · intro α α' β authorize authorize' behind a a' b jobs jobs' same world world' accepted accepted'
      events events'
    have twins : Twin authorize authorize' behind _ (g.serve jobs) (g.serve jobs') a a' b :=
      twin_serve same accepted accepted'
    refine ⟨?_, twins.asked, twins.left, twins.value⟩
    rw [← puts_behindGate events, ← puts_behindGate events']
    exact congrArg puts twins.asked

/-- An authorizer that grants everything and tells to whom. -/
def grantsByName (name : String) (_ : Question) (_ : Unit) : Verdict × Unit :=
  (Verdict.granted.withDetail "account" (.string name), ())

/-- A batch, a change that is no stream, and a read that is kept for a minute. -/
def errands (account : AccountContext) : List Job :=
  [.batch "DELETE FROM t" { sql := "", apiKey := account.apiKey } account,
    .stream { sql := "DELETE FROM t", apiKey := account.apiKey } account,
    .single { sql := "SELECT 1", lifetime := .ofSeconds 60, apiKey := account.apiKey }
      account]

/-- What is exchanged about the errands of one account. -/
def firstEvents : List Event :=
  (({} : Gateway).serve (errands ⟨"first", none⟩)).transcript
    (answerApart countingGrants agreeable) (0, ())

/-- What is exchanged about those of another account, with an authorizer of its own. -/
def secondEvents : List Event :=
  (({} : Gateway).serve (errands ⟨"second", some "key"⟩)).transcript
    (answerApart grantsByName agreeable) ((), ())

/-- For either account the read is kept, and the same is kept. -/
theorem errands_blind :
    (puts firstEvents).length = 1 ∧ puts firstEvents = puts secondEvents ∧
      ∃ plays : List Play, plays.map Play.job = errands ⟨"second", some "key"⟩ ∧
        plays.flatMap Play.events = secondEvents ∧ ∀ play ∈ plays, Discreet {} play := by
  obtain ⟨discreet, blind⟩ := store_blind_to_callers {}
  obtain ⟨plays, jobs, events, _, performed⟩ := discreet (errands ⟨"second", some "key"⟩)
    secondEvents _ (yields_transcript (answerApart grantsByName agreeable) _ ((), ()))
  refine ⟨by decide +kernel, ?_, plays, jobs, events, fun play hplay => (performed play hplay).2⟩
  exact (blind countingGrants grantsByName agreeable 0 () () (errands ⟨"first", none⟩)
    (errands ⟨"second", some "key"⟩) rfl (by decide +kernel) (by decide +kernel)).1

end QueryGateway
