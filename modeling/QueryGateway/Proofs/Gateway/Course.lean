import QueryGateway.Proofs.Gateway.Session

/-! The ways in which a request for one statement is answered.

`Course` lists them with all that is asked of the store and of the database on the way, in
order (`course_of_runPrepared`). A job gives to the store only what the database answered
before to the read that the job is (`guarded_of_perform`). -/
namespace QueryGateway

open Dialogue

/-- What is asked once a statement is cleared, with the answers, and the envelope that comes
of it. -/
inductive Course (g : Gateway) (r : Request) (p : Prepared) : List Event → Envelope → Prop
  | change (operation : p.operation ≠ .read) (answer : Except ExecutionError Outcome) :
      Course g r p [⟨.execute p.sql (r.options .mutation), answer⟩]
        (g.settle ((answer.mapError .execution).map fun o => g.success o p.verdict none))
  | read (operation : p.operation = .read) (uncached : r.wantsCache = false)
      (answer : Except ExecutionError Outcome) :
      Course g r p [⟨.execute p.sql (r.options .query), answer⟩]
        (g.settle ((answer.mapError .execution).map fun o => g.success o p.verdict none))
  | served (operation : p.operation = .read) (cached : r.wantsCache = true)
      {found : Except Cache.StoreError (Option Cache.Entry)} {hit : Cache.Hit} {o : Outcome}
      (kept : Cache.hitOf found = some hit) (readable : Outcome.ofPayload? hit.payload = some o) :
      Course g r p [⟨.lookUp (.of p.sql r.lifetime), found⟩]
        (g.success o p.verdict (some (.ofHit hit)))
  | failed (operation : p.operation = .read) (cached : r.wantsCache = true)
      {found : Except Cache.StoreError (Option Cache.Entry)}
      (useless : (Cache.hitOf found).bind (g.served p) = none) (e : ExecutionError) :
      Course g r p
        [⟨.lookUp (.of p.sql r.lifetime), found⟩,
          ⟨.execute p.sql (r.options .query), .error e⟩]
        (g.failure (.execution e))
  | kept (operation : p.operation = .read) (cached : r.wantsCache = true)
      {found : Except Cache.StoreError (Option Cache.Entry)}
      (useless : (Cache.hitOf found).bind (g.served p) = none) (o : Outcome)
      (stored : Except Cache.StoreError Unit) :
      Course g r p
        [⟨.lookUp (.of p.sql r.lifetime), found⟩,
          ⟨.execute p.sql (r.options .query), .ok o⟩,
          ⟨.keep (.of p.sql r.lifetime) o.payload
            (Cache.effectiveTtl g.longestLifetime r.lifetime), stored⟩]
        (g.success o p.verdict (some (.miss false)))

/-! ### Runs without the store -/

namespace Gateway

/-- A result of the database as a result of the gateway. -/
def resultOf (g : Gateway) (p : Prepared) (answer : Except ExecutionError Outcome) :
    Except Refusal Envelope :=
  (answer.mapError .execution).map fun o => g.success o p.verdict none

/-- What a cleared statement leads to of which nothing is kept. -/
def runDirectly (g : Gateway) (r : Request) (p : Prepared) (kind : ExecutionKind) :
    Consultation (Except Refusal Envelope) := do
  match ← execute p.sql (r.options kind) with
  | .error refusal => return .error refusal
  | .ok outcome => return .ok (g.success outcome p.verdict none)

theorem runDirectly_eq (g : Gateway) (r : Request) (p : Prepared) (kind : ExecutionKind) :
    g.runDirectly r p kind =
      (Call.execute p.sql (r.options kind)).put >>= fun answer => pure (g.resultOf p answer) := by
  rw [runDirectly, execute, bind_assoc]
  refine bind_congr fun answer => ?_
  cases answer <;> rfl

end Gateway

/-! ### The answer to a cleared statement -/

section Answering

variable {g : Gateway} {r : Request} {p : Prepared} {events : List Event}

theorem yields_execute {sql : String} {options : ExecutionOptions}
    {result : Except Refusal Outcome} :
    (Gateway.execute sql options).Yields events result ↔
      ∃ answer, events = [⟨.execute sql options, answer⟩] ∧
        result = answer.mapError .execution := by
  refine yields_map.trans (exists_congr fun answer => and_congr_left' ?_)
  exact yields_question

theorem course_of_runAndKeep (operation : p.operation = .read) (cached : r.wantsCache = true)
    {found : Except Cache.StoreError (Option Cache.Entry)}
    (useless : (Cache.hitOf found).bind (g.served p) = none) {result : Except Refusal Envelope}
    (h : (g.runAndKeep r p (.of p.sql r.lifetime)).Yields events result) :
    Course g r p (⟨.lookUp (.of p.sql r.lifetime), found⟩ :: events) (g.settle result) := by
  have ttl : Cache.ttlFor? g.longestLifetime r.lifetime =
      some (Cache.effectiveTtl g.longestLifetime r.lifetime) := by
    rw [Request.wantsCache, Bool.not_eq_true'] at cached
    rw [Cache.ttlFor?, cached]
    rfl
  obtain ⟨first, outcome, rest, rfl, hexecute, hrest⟩ := yields_bind.mp h
  obtain ⟨answer, rfl, rfl⟩ := yields_execute.mp hexecute
  cases answer with
  | error e =>
    obtain ⟨rfl, rfl⟩ := yields_pure.mp hrest
    exact .failed operation cached useless e
  | ok o =>
    dsimp only [Except.mapError] at hrest
    rw [ttl] at hrest
    obtain ⟨stored, last, rfl, hlast⟩ := yields_ask.mp hrest
    obtain ⟨rfl, rfl⟩ := yields_pure.mp hlast
    exact .kept operation cached useless o stored

/-- A statement that is run without the store is run once. -/
theorem exists_answer_of_runDirectly {kind : ExecutionKind} {result : Except Refusal Envelope}
    (h : (g.runDirectly r p kind).Yields events result) :
    ∃ answer, events = [⟨.execute p.sql (r.options kind), answer⟩] ∧
      result = g.resultOf p answer := by
  rw [Gateway.runDirectly_eq] at h
  obtain ⟨answer, rest, rfl, hrest⟩ := yields_ask.mp h
  obtain ⟨rfl, rfl⟩ := yields_pure.mp hrest
  exact ⟨answer, rfl, rfl⟩

/-- A cleared statement takes one of the courses. -/
theorem course_of_runPrepared {result : Except Refusal Envelope}
    (h : (g.runPrepared r p).Yields events result) : Course g r p events (g.settle result) := by
  unfold Gateway.runPrepared at h
  split at h
  · rename_i operation
    unfold Gateway.runRead at h
    split at h
    · rename_i cached
      obtain ⟨found, rest, rfl, hrest⟩ := yields_ask.mp h
      split at hrest
      · rename_i e hserved
        obtain ⟨rfl, rfl⟩ := yields_pure.mp hrest
        obtain ⟨hit, hhit, hread⟩ := Option.bind_eq_some_iff.mp hserved
        obtain ⟨o, ho, rfl⟩ := Option.map_eq_some_iff.mp hread
        exact .served operation cached hhit ho
      · exact course_of_runAndKeep operation cached ‹_› hrest
    · rename_i uncached
      obtain ⟨answer, rfl, rfl⟩ := exists_answer_of_runDirectly h
      exact .read operation (Bool.not_eq_true _ ▸ uncached) answer
  · rename_i operation
    obtain ⟨answer, rfl, rfl⟩ := exists_answer_of_runDirectly h
    exact .change operation answer

/-- A request for one statement is refused, or prepared and then answered in one of the
courses. -/
theorem runSingle_cases {account : AccountContext} {e : Envelope}
    (h : (g.runSingle r account).Yields events e) :
    (∃ refusal, (prepare g.policy r account).Yields events (.error refusal) ∧
      e = g.failure refusal) ∨
    ∃ p asked rest, events = asked ++ rest ∧
      (prepare g.policy r account).Yields asked (.ok p) ∧ Course g r p rest e := by
  obtain ⟨asked, result, rest, rfl, hprepare, hrest⟩ := yields_bind.mp h
  cases result with
  | error refusal =>
    obtain ⟨rfl, rfl⟩ := yields_pure.mp hrest
    rw [List.append_nil]
    exact .inl ⟨refusal, hprepare, rfl⟩
  | ok p =>
    obtain ⟨answer, hrun, rfl⟩ := yields_map.mp hrest
    exact .inr ⟨p, asked, rest, rfl, hprepare, course_of_runPrepared hrun⟩

end Answering

/-! ### What is kept -/

/-- The request is for a read whose outcome may be kept. -/
def CachedRead (g : Gateway) (r : Request) : Prop :=
  r.wantsCache = true ∧ ∃ found, inspect g.policy r.sql = .ok found ∧ found.operation = .read

/-- The key of a request. -/
def Request.key (r : Request) : Cache.Key := .of r.sql r.lifetime

/-- What a call gives to the store, if it does, is what the database answered to the read that
the job is, under its key. -/
def Keeping (g : Gateway) (job : Job) (past : List Event) (call : Call) : Prop :=
  ∀ key payload ttl, call = .keep key payload ttl → ∃ r account o,
    job = .single r account ∧ CachedRead g r ∧
    ⟨.execute r.sql (r.options .query), .ok o⟩ ∈ past ∧
    key = r.key ∧ payload = o.payload ∧ ttl = Cache.effectiveTtl g.longestLifetime r.lifetime

/-- Whether a call gives something to the store. -/
def Call.isKeep : Call → Bool
  | .keep .. => true
  | _ => false

/-- Whether a call is to the store. -/
def Call.isStore : Call → Bool
  | .lookUp _ | .keep .. => true
  | _ => false

theorem Call.not_isKeep_of_not_isStore {c : Call} (h : c.isStore = false) : c.isKeep = false := by
  cases c with
  | keep => cases h
  | _ => rfl

section Keeping

variable {g : Gateway} {r : Request} {account : AccountContext} {events : List Event}

theorem keeping_of_not_isKeep {job : Job} {past : List Event} {call : Call}
    (h : call.isKeep = false) : Keeping g job past call := by
  intro key payload ttl kept
  rw [kept] at h
  cases h

theorem guarded_of_not_isKeep {job : Job} {past : List Event}
    (h : ∀ e ∈ events, e.1.isKeep = false) : Guarded (Keeping g job) past events :=
  guarded_of_forall fun e he _ => keeping_of_not_isKeep (h e he)

theorem guarded_of_not_isStore {job : Job} {past : List Event}
    (h : ∀ e ∈ events, e.1.isStore = false) : Guarded (Keeping g job) past events :=
  guarded_of_not_isKeep fun e he => Call.not_isKeep_of_not_isStore (h e he)

theorem Event.Asks.not_isStore {name : String} {e : Event} (h : e.Asks name) :
    e.1.isStore = false := by
  obtain ⟨q, hq⟩ := h
  rw [hq]
  rfl

theorem not_isStore_of_prepare {policy : Policy} {result : Except Refusal Prepared}
    (h : (prepare policy r account).Yields events result) : ∀ e ∈ events, e.1.isStore = false :=
  fun e he => (asks_of_prepare h e he).not_isStore

theorem not_isKeep_of_prepare {policy : Policy} {result : Except Refusal Prepared}
    (h : (prepare policy r account).Yields events result) : ∀ e ∈ events, e.1.isKeep = false :=
  fun e he => Call.not_isKeep_of_not_isStore (not_isStore_of_prepare h e he)

theorem inspect_of_prepare {policy : Policy} {p : Prepared}
    (h : (prepare policy r account).Yields events (.ok p)) :
    p.sql = r.sql ∧ ∃ found, inspect policy r.sql = .ok found ∧ found.operation = p.operation := by
  rcases prepare_cases h with ⟨_, _, _, h⟩ | ⟨found, _, hfound, _, hresult⟩
  · cases h
  · rcases hresult with ⟨_, _, h⟩ | ⟨_, _, h⟩ | ⟨_, _, _, h⟩
    · cases h
    · cases h
    · cases h
      exact ⟨rfl, found, hfound, rfl⟩

theorem Course.not_isStore {p : Prepared} {e : Envelope} (h : Course g r p events e)
    (plain : p.operation ≠ .read) : ∀ e ∈ events, e.1.isStore = false := by
  cases h with
  | change => exact List.forall_mem_singleton.mpr rfl
  | read operation | served operation | failed operation | kept operation =>
    exact absurd operation plain

theorem guarded_of_course {p : Prepared} {e : Envelope} (h : Course g r p events e)
    (sql : p.sql = r.sql) (cleared : p.operation = .read → r.wantsCache = true → CachedRead g r)
    (past : List Event) : Guarded (Keeping g (.single r account)) past events := by
  cases h with
  | change | read | served | failed =>
    refine guarded_of_not_isKeep fun e he => ?_
    simp only [List.mem_cons, List.not_mem_nil, or_false] at he
    rcases he with rfl | rfl <;> rfl
  | kept operation cached useless o stored =>
    refine ⟨keeping_of_not_isKeep rfl, keeping_of_not_isKeep rfl, ?_, trivial⟩
    intro key payload ttl kept
    cases kept
    refine ⟨r, account, o, rfl, cleared operation cached, ?_, by rw [sql]; rfl, rfl, rfl⟩
    rw [sql]
    exact List.mem_append_right _ (List.mem_singleton.mpr rfl)

theorem guarded_of_single {e : Envelope} (h : (g.runSingle r account).Yields events e) :
    Guarded (Keeping g (.single r account)) [] events := by
  rcases runSingle_cases h with ⟨_, hprepare, _⟩ | ⟨p, asked, rest, rfl, hprepare, hcourse⟩
  · exact guarded_of_not_isStore (not_isStore_of_prepare hprepare)
  · obtain ⟨sql, found, hfound, hoperation⟩ := inspect_of_prepare hprepare
    refine guarded_append.mpr ⟨guarded_of_not_isStore (not_isStore_of_prepare hprepare), ?_⟩
    refine guarded_of_course hcourse sql (fun operation cached => ⟨cached, found, hfound, ?_⟩) _
    rw [hoperation, operation]

theorem only_put {c : Call} (h : c.isStore = false) : c.put.Only fun c => c.isStore = false :=
  only_question h

theorem only_prepare (policy : Policy) (r : Request) (account : AccountContext) :
    (prepare policy r account).Only fun c => c.isStore = false :=
  fun _ _ h => not_isStore_of_prepare h

theorem only_runStep (g : Gateway) (r : Request) (account : AccountContext) :
    (g.runStep r account).Only fun c => c.isStore = false := by
  refine (only_prepare g.policy r account).bind fun result => ?_
  cases result with
  | error => exact only_pure _
  | ok p =>
    refine (only_put rfl).bind fun answer => ?_
    cases answer <;> exact only_pure _

theorem only_runSteps (g : Gateway) (template : Request) (account : AccountContext)
    (sqls : List String) (last : Option (Prepared × Outcome)) :
    (g.runSteps template account sqls last).Only fun c => c.isStore = false := by
  induction sqls generalizing last with
  | nil => exact only_pure _
  | cons sql rest ih =>
    refine (only_runStep g (template.forStatement sql) account).bind fun result => ?_
    cases result with
    | error => exact only_pure _
    | ok step => exact ih (some step)

/-- A batch leaves the store alone. -/
theorem only_runBatch (g : Gateway) (batch : String) (template : Request)
    (account : AccountContext) :
    (g.runBatch batch template account).Only fun c => c.isStore = false := by
  refine (only_put rfl).bind fun begun => ?_
  cases begun with
  | error => exact only_pure _
  | ok =>
    refine (only_runSteps g template account _ none).bind fun result => ?_
    cases result with
    | error => exact (only_put rfl).bind fun _ => only_pure _
    | ok last =>
      refine (only_put rfl).bind fun committed => ?_
      cases committed <;> exact only_pure _

/-- A stream leaves the store alone: what is not streamed is no read. -/
theorem not_isStore_of_openStream {answer : StreamAnswer}
    (h : (g.openStream r account).Yields events answer) : ∀ e ∈ events, e.1.isStore = false := by
  obtain ⟨asked, result, rest, rfl, hprepare, hrest⟩ := yields_bind.mp h
  refine List.forall_mem_append.mpr ⟨not_isStore_of_prepare hprepare, ?_⟩
  cases result with
  | error =>
    obtain ⟨rfl, _⟩ := yields_pure.mp hrest
    exact List.forall_mem_nil _
  | ok p =>
    dsimp only at hrest
    split at hrest
    · obtain ⟨rows, last, rfl, hlast⟩ := yields_ask.mp hrest
      obtain ⟨rfl, _⟩ := yields_pure.mp hlast
      exact List.forall_mem_singleton.mpr rfl
    · obtain ⟨result, hrun, _⟩ := yields_map.mp hrest
      exact (course_of_runPrepared hrun).not_isStore ‹_›

/-- Whatever a job keeps, it was answered before. -/
theorem guarded_of_perform {job : Job} {answer : StreamAnswer}
    (h : (g.perform job).Yields events answer) : Guarded (Keeping g job) [] events := by
  cases job with
  | single r account =>
    obtain ⟨e, hsingle, _⟩ := yields_map.mp h
    exact guarded_of_single hsingle
  | batch text template account =>
    obtain ⟨e, hbatch, _⟩ := yields_map.mp h
    exact guarded_of_not_isStore (only_runBatch g text template account events e hbatch)
  | stream r account => exact guarded_of_not_isStore (not_isStore_of_openStream h)

end Keeping

end QueryGateway
