import QueryGateway.Proofs.Gateway.Backstage

/-! What is given to the store, and what is served from it.

Only a request for one statement turns to the store, and it gives something exactly if it has
earned it (`Earned`): as a read with a lifetime that passed its gate, was not served, and was
answered by the database. What is served carries the verdict of the gate that let this request
pass (`Discreet`). -/
namespace QueryGateway

open Dialogue

/-! ### Gifts -/

/-- A key, bytes under it, and how long they are kept. -/
abbrev Gift := Cache.Key × List UInt8 × Span

/-- What an event gives to the store. -/
def Event.gift? : Event → Option Gift
  | ⟨.keep key payload ttl, _⟩ => some (key, payload, ttl)
  | _ => none

/-- All that is given to the store, in order. -/
def puts (events : List Event) : List Gift := events.filterMap Event.gift?

section Puts

variable {events events' : List Event}

@[simp] theorem puts_append : puts (events ++ events') = puts events ++ puts events' :=
  List.filterMap_append

theorem puts_eq_nil (h : ∀ e ∈ events, e.1.isKeep = false) : puts events = [] := by
  refine List.filterMap_eq_nil_iff.mpr fun e he => ?_
  obtain ⟨c, answer⟩ := e
  cases c with
  | keep => cases h _ he
  | _ => rfl

/-- The questions to the authorizer give nothing. -/
theorem puts_behindGate (events : List Event) : puts (behindGate events) = puts events := by
  rw [puts, behindGate, List.filterMap_filter]
  refine congrArg (List.filterMap · events) (funext fun e => ?_)
  obtain ⟨c, answer⟩ := e
  cases c <;> rfl

end Puts

/-- What a request for one statement gives to the store for an outcome. -/
def Gateway.giftOf (g : Gateway) (r : Request) (o : Outcome) : Gift :=
  (r.key, o.payload, Cache.effectiveTtl g.longestLifetime r.lifetime)

/-- The request passed its gate as a read with a lifetime, nothing readable was found under its
key, and the database answered with an outcome. -/
structure Earned (g : Gateway) (r : Request) (account : AccountContext) (events : List Event)
    (o : Outcome) : Prop where
  lifetime : r.wantsCache = true
  course : ∃ asked p found rest,
    events = asked ++ ⟨.lookUp r.key, found⟩ :: ⟨.execute r.sql (r.options .query), .ok o⟩ :: rest ∧
    (prepare g.policy r account).Yields asked (.ok p) ∧ p.operation = .read ∧
    ∀ hit, Cache.hitOf found = some hit → Outcome.ofPayload? hit.payload = none

section Single

variable {g : Gateway} {r : Request} {account : AccountContext} {events : List Event}

/-- A course gives something exactly if it looks up in vain and is answered. -/
theorem Course.puts_cases {p : Prepared} {e : Envelope} (h : Course g r p events e)
    (sql : p.sql = r.sql) :
    (∃ found o rest, events =
        ⟨.lookUp r.key, found⟩ :: ⟨.execute r.sql (r.options .query), .ok o⟩ :: rest ∧
      r.wantsCache = true ∧ p.operation = .read ∧
      (∀ hit, Cache.hitOf found = some hit → Outcome.ofPayload? hit.payload = none) ∧
      puts events = [g.giftOf r o]) ∨
    puts events = [] ∧ ∀ found o rest, events ≠
      ⟨.lookUp r.key, found⟩ :: ⟨.execute r.sql (r.options .query), .ok o⟩ :: rest := by
  cases h with
  | change | read | served => exact .inr ⟨rfl, fun _ _ _ => by simp⟩
  | failed _ _ _ e =>
    refine .inr ⟨rfl, fun found o rest same => ?_⟩
    rw [sql] at same
    obtain ⟨_, executed⟩ := List.cons.inj same
    cases (List.cons.inj executed).1
  | @kept operation cached found useless o stored =>
    rw [sql]
    refine .inl ⟨found, o, _, rfl, cached, operation, fun hit kept => ?_, rfl⟩
    rw [kept, Option.bind_some, Gateway.served] at useless
    exact Option.map_eq_none_iff.mp useless

/-- A gate lets pass in one way. -/
theorem Earned.unique {o o' : Outcome} (h : Earned g r account events o)
    (h' : Earned g r account events o') : o = o' := by
  obtain ⟨asked, p, found, rest, rfl, passed, _⟩ := h.course
  obtain ⟨asked', p', found', rest', same, passed', _⟩ := h'.course
  obtain ⟨_, behind, _⟩ := passed.unique passed' same
  cases behind
  rfl

/-- A request gives what it has earned, and nothing else. -/
theorem puts_of_single {e : Envelope} (h : (g.runSingle r account).Yields events e) :
    (∃ o, Earned g r account events o ∧ puts events = [g.giftOf r o]) ∨
      puts events = [] ∧ ∀ o, ¬ Earned g r account events o := by
  rcases runSingle_cases h with ⟨refusal, refused, _⟩ | ⟨p, asked, rest, rfl, passed, course⟩
  · refine .inr ⟨puts_eq_nil (not_isKeep_of_prepare refused), fun o earned => ?_⟩
    obtain ⟨asked, p, found, rest, same, passed, _⟩ := earned.course
    obtain ⟨_, _, result⟩ := refused.unique passed ((List.append_nil _).trans same)
    cases result
  · have nothing := puts_eq_nil (not_isKeep_of_prepare passed)
    rcases course.puts_cases (inspect_of_prepare passed).1 with
      ⟨found, o, rest', rfl, cached, read, unreadable, given⟩ | ⟨none, other⟩
    · refine .inl ⟨o, ⟨cached, asked, p, found, rest', rfl, passed, read, unreadable⟩, ?_⟩
      rw [puts_append, nothing, given]
      rfl
    · refine .inr ⟨by rw [puts_append, nothing, none]; rfl, fun o earned => ?_⟩
      obtain ⟨asked', p', found, rest', same, passed', _⟩ := earned.course
      exact other _ _ _ (passed.unique passed' same).2.1

end Single

/-! ### Verdicts -/

/-- The verdict in an event, if it is a question to the authorizer. -/
def Event.verdict? : Event → Option Verdict
  | ⟨.authorize .., verdict⟩ => some verdict
  | _ => none

/-- The last verdict of the authorizer. -/
def lastVerdict (events : List Event) : Option Verdict :=
  (events.filterMap Event.verdict?).getLast?

/-- The event is about the account and with the credentials of a request. -/
def Event.IsFor (r : Request) (account : AccountContext) (e : Event) : Prop :=
  ∃ q, e.1 = .authorize account.name q ∧ q.credentials = r.credentials

section Verdicts

variable {g : Gateway} {r : Request} {account : AccountContext} {events : List Event}

theorem lastVerdict_answered (name : String) (credentials : Credentials) (requireWrite : Bool)
    (known : List String) (asked : List (String × Verdict)) :
    lastVerdict (asked.map (answered name credentials requireWrite known)) =
      asked.getLast?.map (·.2) := by
  rw [lastVerdict, List.filterMap_map, ← List.getLast?_map, ← List.filterMap_eq_map]
  rfl

theorem verdict_of_authorizeAll {name : String} {credentials : Credentials}
    {requireWrite : Bool} {known names : List String} {last verdict : Option Verdict}
    (h : (authorizeAll name credentials requireWrite known names last).Yields events
      (.ok verdict)) :
    verdict = (lastVerdict events).or last := by
  obtain ⟨asked, _, ⟨_, rfl, same⟩ | ⟨_, _, _, _, _, _, same⟩⟩ := authorizeAll_yields_iff.mp h
  · cases same
    rw [lastVerdict_answered]
  · cases same

/-- What is prepared has the last verdict on it. -/
theorem verdict_of_prepare {policy : Policy} {p : Prepared}
    (h : (prepare policy r account).Yields events (.ok p)) : p.verdict = lastVerdict events := by
  rcases prepare_cases h with ⟨_, _, _, h⟩ | ⟨found, checked, _, hchecked, hresult⟩
  · cases h
  · rcases hresult with ⟨_, _, h⟩ | ⟨_, _, h⟩ | ⟨verdict, rfl, _, h⟩
    · cases h
    · cases h
    · cases h
      rw [verdict_of_authorizeAll hchecked, Option.or_none]

theorem isFor_of_prepare {policy : Policy} {result : Except Refusal Prepared}
    (h : (prepare policy r account).Yields events result) : ∀ e ∈ events, e.IsFor r account := by
  intro e he
  obtain ⟨names, known, requireWrite, _, calls⟩ := calls_of_prepare h
  have called := List.mem_map_of_mem (f := (·.1)) he
  rw [calls] at called
  obtain ⟨relation, _, same⟩ := List.mem_map.mp called
  exact ⟨_, same.symm, rfl⟩

end Verdicts

/-! ### One play -/

/-- Whether an envelope was served from the store. -/
def Envelope.isHit (e : Envelope) : Bool := e.cacheHit.any CacheStatus.isHit

/-- What a play gives to the store is what it has earned, batches and streams leave the store
alone, and what is served carries the last verdict of this play, in which the authorizer was
asked for its own request only. -/
structure Discreet (g : Gateway) (play : Play) : Prop where
  aloof : (∀ r account, play.job ≠ .single r account) → ∀ e ∈ play.events, e.1.isStore = false
  gives : ∀ r account, play.job = .single r account →
    ∀ o, Earned g r account play.events o → puts play.events = [g.giftOf r o]
  givesNothingElse : ∀ r account, play.job = .single r account →
    (∀ o, ¬ Earned g r account play.events o) → puts play.events = []
  ownVerdict : ∀ e, play.answer = .envelope e → e.isHit = true →
    e.authCheck = (lastVerdict play.events).map Verdict.summary ∧
    ∀ event ∈ play.events, event.1.asksAuthorizer = true →
      event.IsFor play.job.request play.job.account

section Plays

variable {g : Gateway} {r : Request} {account : AccountContext} {events : List Event}
  {e : Envelope}

/-- Only one course serves something, and asks the store alone. -/
theorem Course.authCheck_of_isHit {p : Prepared} (h : Course g r p events e)
    (hit : e.isHit = true) : e.authCheck = p.verdict.map Verdict.summary ∧
      events.filterMap Event.verdict? = [] := by
  cases h with
  | change _ answer | read _ _ answer => cases answer <;> cases hit
  | served => exact ⟨rfl, rfl⟩
  | failed | kept => cases hit

theorem Course.not_isHit {p : Prepared} (h : Course g r p events e) (plain : p.operation ≠ .read) :
    e.isHit = false := by
  cases h with
  | change _ answer => cases answer <;> rfl
  | read operation | served operation | failed operation | kept operation =>
    exact absurd operation plain

theorem ownVerdict_of_single (h : (g.runSingle r account).Yields events e)
    (hit : e.isHit = true) : e.authCheck = (lastVerdict events).map Verdict.summary ∧
      ∀ event ∈ events, event.1.asksAuthorizer = true → event.IsFor r account := by
  rcases runSingle_cases h with ⟨refusal, _, rfl⟩ | ⟨p, asked, rest, rfl, passed, course⟩
  · cases hit
  · obtain ⟨check, silent⟩ := course.authCheck_of_isHit hit
    constructor
    · rw [check, verdict_of_prepare passed, lastVerdict, lastVerdict, List.filterMap_append, silent,
        List.append_nil]
    · intro event he asks
      rcases List.mem_append.mp he with he | he
      · exact isFor_of_prepare passed event he
      · rw [course.not_asksAuthorizer event he] at asks
        cases asks

theorem not_isHit_of_batch {batch : String} {template : Request}
    (h : (g.runBatch batch template account).Yields events e) : e.isHit = false := by
  obtain ⟨begun, rest, rfl, hrest⟩ := yields_ask.mp h
  cases begun with
  | error =>
    obtain ⟨_, rfl⟩ := yields_pure.mp hrest
    rfl
  | ok =>
    obtain ⟨_, result, last, rfl, _, hlast⟩ := yields_bind.mp hrest
    cases result with
    | error refusal =>
      obtain ⟨_, nothing, rfl, hend⟩ := yields_ask.mp hlast
      obtain ⟨_, rfl⟩ := yields_pure.mp hend
      rfl
    | ok step =>
      obtain ⟨committed, nothing, rfl, hend⟩ := yields_ask.mp hlast
      cases committed <;> obtain ⟨_, rfl⟩ := yields_pure.mp hend
      · rfl
      · cases step <;> rfl

/-- Nothing is served where the store is left alone. -/
theorem not_isHit_of_stream (h : (g.openStream r account).Yields events (.envelope e)) :
    e.isHit = false := by
  obtain ⟨asked, result, rest, rfl, _, hrest⟩ := yields_bind.mp h
  cases result with
  | error =>
    obtain ⟨_, same⟩ := yields_pure.mp hrest
    cases same
    rfl
  | ok p =>
    dsimp only at hrest
    split at hrest
    · obtain ⟨_, _, same⟩ := yields_map.mp hrest
      cases same
    · obtain ⟨result, hrun, same⟩ := yields_map.mp hrest
      cases same
      exact (course_of_runPrepared hrun).not_isHit ‹_›

theorem discreet_of_single (h : (g.runSingle r account).Yields events e) :
    Discreet g ⟨.single r account, events, .envelope e⟩ where
  aloof other := absurd rfl (other r account)
  gives r' account' same o earned := by
    cases same
    rcases puts_of_single h with ⟨o', earned', given⟩ | ⟨_, unearned⟩
    · rw [earned.unique earned']
      exact given
    · exact absurd earned (unearned o)
  givesNothingElse r' account' same unearned := by
    cases same
    rcases puts_of_single h with ⟨o, earned, _⟩ | ⟨none, _⟩
    · exact absurd earned (unearned o)
    · exact none
  ownVerdict e' same hit := by
    cases same
    exact ownVerdict_of_single h hit

/-- What leaves the store alone and serves nothing is discreet. -/
theorem discreet_of_aloof {job : Job} {answer : StreamAnswer}
    (plural : ∀ r account, job ≠ .single r account)
    (aloof : ∀ e ∈ events, e.1.isStore = false)
    (fresh : ∀ e, answer = .envelope e → e.isHit = false) : Discreet g ⟨job, events, answer⟩ where
  aloof _ := aloof
  gives r account same := absurd same (plural r account)
  givesNothingElse r account same := absurd same (plural r account)
  ownVerdict e same hit := by
    rw [fresh e same] at hit
    cases hit

theorem discreet_of_perform {job : Job} {answer : StreamAnswer}
    (h : (g.perform job).Yields events answer) : Discreet g ⟨job, events, answer⟩ := by
  cases job with
  | single r account =>
    obtain ⟨e, hsingle, rfl⟩ := yields_map.mp h
    exact discreet_of_single hsingle
  | batch text template account =>
    obtain ⟨e, hbatch, rfl⟩ := yields_map.mp h
    refine discreet_of_aloof (fun _ _ same => by cases same)
      (only_runBatch g text template account events e hbatch) fun e' same => ?_
    rw [← StreamAnswer.envelope.inj same]
    exact not_isHit_of_batch hbatch
  | stream r account =>
    refine discreet_of_aloof (fun _ _ same => by cases same) (not_isStore_of_openStream h) ?_
    rintro e rfl
    exact not_isHit_of_stream h

end Plays

end QueryGateway
