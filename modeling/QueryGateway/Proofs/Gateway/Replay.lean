import QueryGateway.Proofs.Cache.Key
import QueryGateway.Proofs.Gateway.Holding
import QueryGateway.Proofs.Gateway.Mediation

/-! What was kept is answered again until it expires, and then no longer.

Jobs come one after the other; between them time passes and the memory is purged. None of
this touches what is kept under a key, unless it is a read of that key (`Follows`). So
after a read was run and kept, the next one of its key is answered the same without the
database while the time to live has not passed, and runs again after it
(`replay_until_expiry`). -/
namespace QueryGateway

open Dialogue

/-! ### One job after the other -/

/-- Those who answer besides the memory, with a state of their own, and a clock. -/
structure Others (σ : Type) where
  reply : (c : Call) → σ → c.Answer × σ
  clock : σ → Instant

/-- The others, the time, and what the memory holds. -/
structure Stage (σ : Type) where
  others : σ
  now : Instant
  memory : Cache.Memory

/-- Whether a call is to the store. -/
def Call.asksStore : Call → Bool
  | .lookUp _ | .keep .. => true
  | _ => false

/-- What comes between two requests, or happens instead of one. -/
inductive Happening where
  | tick (time : Instant)
  | purge
  | job (job : Job)

section Stages

variable {σ : Type} (w : Others σ) (g : Gateway)

/-- How a call is answered on a stage. Time passes, except while the store is asked. -/
def Others.answer (call : Call) (s : Stage σ) : call.Answer × Stage σ :=
  (s.memory.answer s.now (fun c => (w.reply c s.others).1) call,
    { others := (w.reply call s.others).2
      now := if call.asksStore then s.now else s.now.forwardTo (w.clock (w.reply call s.others).2)
      memory := s.memory.after s.now call })

/-- The stage after something happened. -/
def Stage.happen (s : Stage σ) : Happening → Stage σ
  | .tick time => { s with now := s.now.forwardTo time }
  | .purge => { s with memory := s.memory.purge s.now }
  | .job job => ((g.perform job).run w.answer s).2

/-- The stage after one happening after the other. -/
def Stage.play (s : Stage σ) (happenings : List Happening) : Stage σ :=
  happenings.foldl (Stage.happen w g) s

end Stages

theorem Stage.play_nil {σ : Type} (w : Others σ) (g : Gateway) (s : Stage σ) :
    s.play w g [] = s := rfl

/-- What happens is no read that is kept under a key. -/
def Happening.Spares (g : Gateway) (key : Cache.Key) : Happening → Prop
  | .job (.single r _) => CachedRead g r → r.key ≠ key
  | _ => True

/-- A stage that can come after another one. -/
structure Onward {σ : Type} (s s' : Stage σ) : Prop where
  later : s.now.notAfter s'.now = true
  calendar : Instant.inCalendar s.now.second = true → Instant.inCalendar s'.now.second = true
  once : s.memory.OnePerKey → s'.memory.OnePerKey

/-- A stage that can come after another one, and has the same kept under a key. -/
structure Follows {σ : Type} (key : Cache.Key) (s s' : Stage σ) : Prop extends Onward s s' where
  same : s.memory.OnePerKey → ∀ t, s'.now.notAfter t = true →
    s'.memory.get? t key = s.memory.get? t key

section Following

variable {σ : Type} {w : Others σ} {g : Gateway} {key : Cache.Key} {s s' s'' : Stage σ}

theorem Onward.refl (s : Stage σ) : Onward s s := ⟨Instant.notAfter_refl _, id, id⟩

theorem Onward.trans (h : Onward s s') (h' : Onward s' s'') : Onward s s'' :=
  ⟨Instant.notAfter_trans h.later h'.later, h'.calendar ∘ h.calendar, h'.once ∘ h.once⟩

theorem onward_answer (w : Others σ) (call : Call) (s : Stage σ) :
    Onward s (w.answer call s).2 := by
  have once (h : s.memory.OnePerKey) : (s.memory.after s.now call).OnePerKey := h.after s.now call
  unfold Others.answer
  dsimp only
  split
  · exact ⟨Instant.notAfter_refl _, id, once⟩
  · exact ⟨Instant.notAfter_forwardTo _ _, fun h => Instant.inCalendar_forwardTo h _, once⟩

theorem onward_run {α : Type} (d : Consultation α) (s : Stage σ) :
    Onward s (d.run w.answer s).2 := by
  induction d generalizing s with
  | done a => exact .refl s
  | ask call next ih => exact (onward_answer w call s).trans (ih _ _)

theorem Follows.refl (s : Stage σ) : Follows key s s := ⟨.refl s, fun _ _ _ => rfl⟩

theorem Follows.trans (h : Follows key s s') (h' : Follows key s' s'') : Follows key s s'' :=
  ⟨h.toOnward.trans h'.toOnward, fun once t ht => (h'.same (h.once once) t ht).trans
    (h.same once t (Instant.notAfter_trans h'.later ht))⟩

theorem follows_tick (s : Stage σ) (time : Instant) :
    Follows key s { s with now := s.now.forwardTo time } :=
  ⟨⟨Instant.notAfter_forwardTo _ _, fun h => Instant.inCalendar_forwardTo h _, id⟩,
    fun _ _ _ => rfl⟩

theorem follows_purge (s : Stage σ) :
    Follows key s { s with memory := s.memory.purge s.now } :=
  ⟨⟨Instant.notAfter_refl _, id, fun once => once.purge _⟩,
    fun once _ ht => Cache.Memory.get?_purge once ht key⟩

theorem follows_answer {call : Call} (spares : ∀ now, call.entryFor now key = none)
    (s : Stage σ) : Follows key s (w.answer call s).2 := by
  refine ⟨onward_answer w call s, fun _ t _ => ?_⟩
  show (s.memory.after s.now call).get? t key = _
  rw [Cache.Memory.get?_after, spares]

/-- A run that keeps nothing under a key leaves alone what is kept under it. -/
theorem follows_run {α : Type} {d : Consultation α} (s : Stage σ)
    (spares : ∀ e ∈ d.transcript w.answer s, ∀ now, e.1.entryFor now key = none) :
    Follows key s (d.run w.answer s).2 := by
  induction d generalizing s with
  | done a => exact .refl s
  | ask call next ih =>
    obtain ⟨first, rest⟩ := List.forall_mem_cons.mp spares
    exact (follows_answer first s).trans (ih _ _ rest)

/-- A job that is no read of a key keeps nothing under it. -/
theorem follows_perform (s : Stage σ) {job : Job} (spares : Happening.Spares g key (.job job)) :
    Follows key s ((g.perform job).run w.answer s).2 := by
  refine follows_run s fun e he now => ?_
  obtain ⟨before, after, split⟩ := List.append_of_mem he
  have guarded := guarded_of_perform (yields_transcript w.answer (g.perform job) s)
  rw [split] at guarded
  cases made : e.1.entryFor now key with
  | none => rfl
  | some entry =>
    obtain ⟨payload, ttl, hcall, _⟩ := Call.entryFor_eq_some.mp made
    obtain ⟨r, account, o, rfl, cached, _, hkey, _⟩ := guarded.admitted _ _ _ hcall
    exact absurd hkey.symm (spares cached)

theorem follows_happen (s : Stage σ) {h : Happening} (spares : h.Spares g key) :
    Follows key s (s.happen w g h) := by
  cases h with
  | tick time => exact follows_tick s time
  | purge => exact follows_purge s
  | job job => exact follows_perform s spares

/-- Whatever happens, as long as it is no read of a key, leaves alone what is kept under it. -/
theorem follows_play (s : Stage σ) {happenings : List Happening}
    (spares : ∀ h ∈ happenings, h.Spares g key) : Follows key s (s.play w g happenings) := by
  induction happenings generalizing s with
  | nil => exact .refl s
  | cons h rest ih =>
    obtain ⟨first, others⟩ := List.forall_mem_cons.mp spares
    exact (follows_happen s first).trans (ih _ others)

end Following

/-! ### The two requests -/

/-- The statements that were run, with their options. -/
def ranStatements (events : List Event) : List (String × ExecutionOptions) :=
  events.filterMap fun e => e.1.statement?

/-- How long what a request gets is kept. -/
def Gateway.timeToLive (g : Gateway) (r : Request) : Span :=
  Cache.effectiveTtl g.longestLifetime r.lifetime

section Requests

variable {σ : Type} {w : Others σ} {g : Gateway} {r : Request} {account : AccountContext}
  {s : Stage σ} {e : Envelope}

/-- A run without calls changes nothing. -/
theorem run_of_transcript_nil {α : Type} {d : Consultation α} (h : d.transcript w.answer s = []) :
    (d.run w.answer s).2 = s := by
  cases d with
  | done a => rfl
  | ask call next => cases h

/-- A call at the start of a run is answered on the stage before it. -/
theorem answer_of_transcript_cons {α : Type} {d : Consultation α} {call : Call}
    {a : call.Answer} {rest : List Event} (h : d.transcript w.answer s = ⟨call, a⟩ :: rest) :
    a = (w.answer call s).1 := by
  cases d with
  | done a => cases h
  | ask call' next =>
    cases (List.cons.inj h).1
    rfl

/-- What was given to the memory at the end of a run is there from then on. -/
theorem get?_of_keep {α : Type} {d : Consultation α} {s : Stage σ} {before : List Event}
    {key : Cache.Key} {payload : List UInt8} {ttl : Span} {stored : Except Cache.StoreError Unit}
    (h : d.transcript w.answer s = before ++ [⟨.keep key payload ttl, stored⟩]) (t : Instant) :
    (d.run w.answer s).2.memory.get? t key =
      Cache.unexpired t (some ⟨payload, (d.run w.answer s).2.now, ttl⟩) := by
  induction d generalizing before s with
  | done a => simp [transcript] at h
  | ask call next ih =>
    cases before with
    | nil =>
      obtain ⟨first, rest⟩ := List.cons.inj h
      cases first
      have last := run_of_transcript_nil rest
      show ((next _).run w.answer _).2.memory.get? t key =
        Cache.unexpired t (some ⟨payload, ((next _).run w.answer _).2.now, ttl⟩)
      rw [last]
      show (s.memory.after s.now _).get? t key = _
      rw [Cache.Memory.get?_after, Call.entryFor, if_pos rfl]
      rfl
    | cons first before => exact ih _ (List.cons.inj h).2

/-- A request that was run and kept was so in the last of its courses. -/
theorem kept_of_miss {events : List Event} (h : (g.runSingle r account).Yields events e)
    (miss : e.cacheHit = some (.miss false)) : ∃ before o stored,
      ⟨.execute r.sql (r.options .query), .ok o⟩ ∈ events ∧
      events = before ++ [⟨.keep r.key o.payload (g.timeToLive r), stored⟩] ∧ e.Shows o ∧
      r.wantsCache = true := by
  rcases runSingle_cases h with ⟨_, _, rfl⟩ | ⟨p, asked, rest, rfl, hprepare, course⟩
  · cases miss
  · have sql := (inspect_of_prepare hprepare).1
    cases course with
    | change _ answer | read _ _ answer => cases answer <;> cases miss
    | served => cases miss
    | failed => cases miss
    | @kept _ wants found _ o stored =>
      rw [sql]
      refine ⟨asked ++ [⟨.lookUp r.key, found⟩, ⟨.execute r.sql (r.options .query), .ok o⟩], o,
        stored, by simp, ?_, g.success_shows .., wants⟩
      rw [List.append_assoc]
      rfl

/-- A request that passes the gate goes on in one of the courses with its own statement, from
the stage behind the gate. -/
theorem course_of_gate {p : Prepared} {gate : Stage σ}
    (passes : (prepare g.policy r account).run w.answer s = (.ok p, gate)) :
    p.sql = r.sql ∧
      (g.runSingle r account).transcript w.answer s =
        (prepare g.policy r account).transcript w.answer s ++
          (g.runPrepared r p).transcript w.answer gate ∧
      Course g r p ((g.runPrepared r p).transcript w.answer gate)
        ((g.runSingle r account).run w.answer s).1 := by
  have prepared := yields_transcript w.answer (prepare g.policy r account) s
  rw [passes] at prepared
  have split : (g.runSingle r account).run w.answer s =
      (g.settle ((g.runPrepared r p).run w.answer gate).1,
        ((g.runPrepared r p).run w.answer gate).2) := by
    rw [Gateway.runSingle, run_bind, passes]
    dsimp only
    rw [run_bind]
    rfl
  refine ⟨(inspect_of_prepare prepared).1, ?_, ?_⟩
  · rw [Gateway.runSingle, transcript_bind, passes]
    dsimp only
    rw [transcript_bind]
    exact congrArg _ (List.append_nil _)
  · rw [split]
    exact course_of_runPrepared (yields_transcript w.answer (g.runPrepared r p) gate)

/-- The gate runs nothing. -/
theorem ranStatements_behind_gate {policy : Policy} (events : List Event) :
    ranStatements ((prepare policy r account).transcript w.answer s ++ events) =
      ranStatements events := by
  have nothing : ranStatements ((prepare policy r account).transcript w.answer s) = [] :=
    List.filterMap_eq_nil_iff.mpr fun e he =>
      (asks_of_prepare (yields_transcript ..) e he).runs_nothing
  rw [ranStatements, List.filterMap_append]
  exact congrArg (· ++ ranStatements events) nothing

/-- An envelope shows the same as an earlier one, and says that it was kept; the database was not
asked. -/
structure Repeats (e e' : Envelope) (payload : List UInt8) (created : Instant) (ttl : Span)
    (events : List Event) : Prop where
  data : e'.data = e.data
  affectedRows : e'.affectedRows = e.affectedRows
  extra : e'.extra = e.extra
  status : e'.cacheHit = some (.hit created (Cache.signature payload) (created.later? ttl))
  runsNothing : ranStatements events = []

/-- A request is answered by the database, once, and not from what is kept. -/
structure RunsAgain (r : Request) (e : Envelope) (events : List Event) : Prop where
  runs : ranStatements events = [(r.sql, r.options .query)]
  status : e.success = true → e.cacheHit = some (.miss false)
  shows : e.success = true →
    ∃ o, ⟨.execute r.sql (r.options .query), .ok o⟩ ∈ events ∧ e.Shows o

/-- A read for which nothing usable is kept is answered by the database. -/
theorem runsAgain_of_gate {p : Prepared} {gate : Stage σ}
    (passes : (prepare g.policy r account).run w.answer s = (.ok p, gate))
    (read : p.operation = .read) (wants : r.wantsCache = true)
    (useless : (Cache.hitOf (.ok (gate.memory.get? gate.now r.key))).bind (g.served p) = none) :
    RunsAgain r ((g.runSingle r account).run w.answer s).1
      ((g.runSingle r account).transcript w.answer s) := by
  obtain ⟨sql, split, course⟩ := course_of_gate passes
  rw [split]
  generalize htranscript : (g.runPrepared r p).transcript w.answer gate = rest at course ⊢
  generalize (((g.runSingle r account).run w.answer s).1) = e at course ⊢
  cases course with
  | change plain => exact absurd read plain
  | read _ uncached =>
    rw [wants] at uncached
    cases uncached
  | @served _ _ found hit o hhit readable =>
    rw [sql] at htranscript
    have looked : found = .ok (gate.memory.get? gate.now r.key) :=
      answer_of_transcript_cons htranscript
    rw [← looked, hhit, Option.bind_some, Gateway.served, readable] at useless
    cases useless
  | failed =>
    refine ⟨?_, nofun, nofun⟩
    rw [ranStatements_behind_gate, sql]
    rfl
  | kept _ _ _ o stored =>
    refine ⟨?_, fun _ => rfl, fun _ => ⟨o, ?_, g.success_shows ..⟩⟩
    · rw [ranStatements_behind_gate, sql]
      rfl
    · rw [sql]
      simp

/-- What is no read is run, whatever is kept. -/
theorem ranStatements_of_change {p : Prepared} {gate : Stage σ}
    (passes : (prepare g.policy r account).run w.answer s = (.ok p, gate))
    (plain : p.operation ≠ .read) :
    ranStatements ((g.runSingle r account).transcript w.answer s) =
      [(r.sql, r.options .mutation)] := by
  obtain ⟨sql, split, course⟩ := course_of_gate passes
  rw [split, ranStatements_behind_gate, ← sql]
  generalize (g.runPrepared r p).transcript w.answer gate = rest at course ⊢
  generalize ((g.runSingle r account).run w.answer s).1 = e at course
  cases course with
  | change => rfl
  | read operation | served operation | failed operation | kept operation =>
    exact absurd operation plain

/-- A read for which a usable entry is there is answered from it. -/
theorem served_of_gate {p : Prepared} {gate : Stage σ}
    (passes : (prepare g.policy r account).run w.answer s = (.ok p, gate))
    (read : p.operation = .read) (wants : r.wantsCache = true) {entry : Cache.Entry} {o : Outcome}
    (there : gate.memory.get? gate.now r.key = some entry)
    (readable : Outcome.ofPayload? entry.payload = some o) :
    ((g.runSingle r account).run w.answer s).1 =
        g.success o p.verdict (some (.ofHit entry.hit)) ∧
      ranStatements ((g.runSingle r account).transcript w.answer s) = [] := by
  obtain ⟨sql, split, course⟩ := course_of_gate passes
  rw [split]
  generalize htranscript : (g.runPrepared r p).transcript w.answer gate = rest at course ⊢
  generalize (((g.runSingle r account).run w.answer s).1) = e at course ⊢
  have looked {found : Except Cache.StoreError (Option Cache.Entry)} {later : List Event}
      (h : (g.runPrepared r p).transcript w.answer gate =
        ⟨.lookUp (.of p.sql r.lifetime), found⟩ :: later) : found = .ok (some entry) := by
    rw [sql] at h
    rw [← there]
    exact answer_of_transcript_cons h
  have useful : (Cache.hitOf (.ok (some entry))).bind (g.served p) ≠ none := by
    rw [Cache.hitOf, Option.bind_some, Gateway.served, Cache.Entry.hit, readable]
    exact Option.some_ne_none _
  cases course with
  | change plain => exact absurd read plain
  | read _ uncached =>
    rw [wants] at uncached
    cases uncached
  | failed _ _ useless =>
    rw [looked htranscript] at useless
    exact absurd useless useful
  | kept _ _ useless =>
    rw [looked htranscript] at useless
    exact absurd useless useful
  | served _ _ hhit hread =>
    rw [looked htranscript] at hhit
    cases hhit
    rw [Cache.Entry.hit, readable] at hread
    cases hread
    refine ⟨rfl, ?_⟩
    rw [ranStatements_behind_gate]
    rfl

/-- What was kept at the end of a request is there behind the gate of a later one, until it
expires. -/
theorem get?_at_gate {kept gate : Stage σ} {before : List Event} {o : Outcome}
    {stored : Except Cache.StoreError Unit} (once : s.memory.OnePerKey)
    (ran : (g.runSingle r account).run w.answer s = (e, kept))
    (transcript : (g.runSingle r account).transcript w.answer s =
      before ++ [⟨.keep r.key o.payload (g.timeToLive r), stored⟩])
    {happenings : List Happening} (spares : ∀ h ∈ happenings, h.Spares g r.key)
    {r' : Request} {account' : AccountContext} {result : Except Refusal Prepared}
    (passes : (prepare g.policy r' account').run w.answer (kept.play w g happenings) =
      (result, gate)) :
    Onward s kept ∧ Onward kept gate ∧ gate.memory.get? gate.now r.key =
      Cache.unexpired gate.now (some ⟨o.payload, kept.now, g.timeToLive r⟩) := by
  have started := onward_run (w := w) (g.runSingle r account) s
  have held := get?_of_keep transcript gate.now
  have gated : Follows r.key (kept.play w g happenings)
      ((prepare g.policy r' account').run w.answer (kept.play w g happenings)).2 :=
    follows_run _ fun e he now =>
      Call.entryFor_of_not_isKeep (not_isKeep_of_prepare (yields_transcript ..) e he)
  rw [ran] at started held
  rw [passes] at gated
  have passed : Follows r.key kept gate := (follows_play kept spares).trans gated
  refine ⟨started, passed.toOnward, ?_⟩
  rw [passed.same (started.once once) gate.now (Instant.notAfter_refl _), held]

/-- What is nested too deep is of no use, whether it has expired or not. -/
theorem runsAgain_of_deep {kept gate : Stage σ} {before : List Event} {o : Outcome}
    {stored : Except Cache.StoreError Unit} (once : s.memory.OnePerKey)
    (ran : (g.runSingle r account).run w.answer s = (e, kept))
    (transcript : (g.runSingle r account).transcript w.answer s =
      before ++ [⟨.keep r.key o.payload (g.timeToLive r), stored⟩])
    (regular : o.Regular) (deep : ¬ o.Shallow)
    {happenings : List Happening} (spares : ∀ h ∈ happenings, h.Spares g r.key)
    {r' : Request} {account' : AccountContext} (key : r'.key = r.key)
    (wants : r'.wantsCache = true) {p : Prepared}
    (passes : (prepare g.policy r' account').run w.answer (kept.play w g happenings) =
      (.ok p, gate)) (read : p.operation = .read) :
    RunsAgain r' ((g.runSingle r' account').run w.answer (kept.play w g happenings)).1
      ((g.runSingle r' account').transcript w.answer (kept.play w g happenings)) := by
  obtain ⟨_, _, there⟩ := get?_at_gate once ran transcript spares passes
  refine runsAgain_of_gate passes read wants ?_
  rw [key, there, Cache.unexpired_some]
  split
  · rfl
  · rw [Cache.hitOf, Option.bind_some, Gateway.served, Cache.Entry.hit,
      Outcome.ofPayload?_payload regular, if_neg deep]
    rfl

end Requests

/-- **What was kept is answered again until it expires.** A read was run and kept; then
other things happen, none of them a read of the same key; then a request with the same text
up to blanks and the same lifetime passes the gate as a read. If this is before the end of
the time to live, it is answered the same from what is kept, without the database, unless
what is kept is nested so deep that it cannot be read; otherwise it is run again. -/
theorem replay_until_expiry {σ : Type} (w : Others σ) (g : Gateway) (s : Stage σ)
    (calendar : Instant.inCalendar s.now.second = true) (once : s.memory.OnePerKey)
    (r : Request) (account : AccountContext) (e : Envelope) (kept : Stage σ)
    (ran : (g.runSingle r account).run w.answer s = (e, kept))
    (miss : e.cacheHit = some (.miss false))
    (regular : ∀ sql options o, ⟨.execute sql options, .ok o⟩ ∈
      (g.runSingle r account).transcript w.answer s → o.Regular)
    (happenings : List Happening) (spares : ∀ h ∈ happenings, h.Spares g r.key)
    (r' : Request) (account' : AccountContext) (statement : Text.trim r'.sql = Text.trim r.sql)
    (lifetime : r'.lifetime = r.lifetime) (p : Prepared) (gate : Stage σ)
    (passes : (prepare g.policy r' account').run w.answer (kept.play w g happenings) =
      (.ok p, gate))
    (read : p.operation = .read) (e' : Envelope) (final : Stage σ)
    (again : (g.runSingle r' account').run w.answer (kept.play w g happenings) = (e', final)) :
    ∃ before o stored,
      (g.runSingle r account).transcript w.answer s =
        before ++ [⟨.keep r.key o.payload (g.timeToLive r), stored⟩] ∧ e.Shows o ∧
      ((kept.now.after (g.timeToLive r)).notAfter gate.now = false → o.Shallow →
        Repeats e e' o.payload kept.now (g.timeToLive r)
          ((g.runSingle r' account').transcript w.answer (kept.play w g happenings))) ∧
      ((kept.now.after (g.timeToLive r)).notAfter gate.now = true ∨ ¬ o.Shallow →
        RunsAgain r' e'
          ((g.runSingle r' account').transcript w.answer (kept.play w g happenings))) := by
  have first := yields_transcript w.answer (g.runSingle r account) s
  rw [ran] at first
  obtain ⟨before, o, stored, executed, transcript, shows, wants⟩ := kept_of_miss first miss
  refine ⟨before, o, stored, transcript, shows, ?_⟩
  have key : r'.key = r.key := by
    have bytes := Cache.keyBytes_inj.mpr ⟨statement, congrArg Span.seconds lifetime⟩
    exact congrArg (fun bytes => Cache.Key.mk (Digest.sha256Hex bytes)) bytes
  have wants' : r'.wantsCache = true := by
    rw [Request.wantsCache, lifetime]
    exact wants
  obtain ⟨started, passed, there⟩ := get?_at_gate once ran transcript spares passes
  rw [← key] at there
  have expires : (⟨o.payload, kept.now, g.timeToLive r⟩ : Cache.Entry).isExpired gate.now =
      (kept.now.after (g.timeToLive r)).notAfter gate.now :=
    Cache.Entry.isExpired_eq (Cache.isZero_effectiveTtl _ _) (started.calendar calendar)
      (passed.calendar (started.calendar calendar))
  have second : ((g.runSingle r' account').run w.answer (kept.play w g happenings)).1 = e' := by
    rw [again]
  constructor
  · intro alive shallow
    have readBack := Outcome.ofPayload?_payload (regular _ _ o executed)
    rw [if_pos shallow] at readBack
    rw [Cache.unexpired_some, expires, alive] at there
    obtain ⟨answered, nothing⟩ := served_of_gate passes read wants' there readBack
    rw [second] at answered
    subst answered
    obtain ⟨data, affectedRows, extra⟩ := shows
    have status := CacheStatus.ofHit_hit (e := ⟨o.payload, kept.now, g.timeToLive r⟩)
      (Cache.isZero_effectiveTtl _ _)
    exact ⟨data.symm, affectedRows.symm, extra.symm, congrArg some status, nothing⟩
  · intro gone
    rw [← second]
    rcases gone with expired | deep
    · refine runsAgain_of_gate passes read wants' ?_
      rw [there, Cache.unexpired_some, expires, if_pos expired]
      rfl
    · exact runsAgain_of_deep once ran transcript (regular _ _ o executed) deep spares key wants'
        passes read

/-- Others who grant and do what they are asked, while no time passes. -/
def promptOthers : Others Unit := ⟨agreeable, fun _ => ⟨0, 0⟩⟩

/-- Nothing is kept yet. -/
def emptyStage : Stage Unit := ⟨(), ⟨0, 0⟩, {}⟩

/-- Almost a minute, with a purge, a batch, a stream, another read and a change in it. -/
def busyMinute : List Happening :=
  let account : AccountContext := ⟨"demo", none⟩
  [.tick ⟨30, 0⟩, .purge, .job (.batch "SELECT 1" { sql := "" } account),
    .job (.stream minuteRead account),
    .job (.single { minuteRead with sql := "SELECT 2" } account),
    .job (.single { sql := "INSERT INTO t VALUES (1)", lifetime := .ofSeconds 60 } account),
    .tick ⟨59, 0⟩]

/-- The same read, with blanks around it. -/
def blankRead : Request := { minuteRead with sql := " SELECT 1\n" }

theorem busyMinute_spares : ∀ h ∈ busyMinute, h.Spares hourGateway minuteRead.key := by
  have other : ∀ sql ∈ ["SELECT 2", "INSERT INTO t VALUES (1)"],
      Cache.Key.of sql (.ofSeconds 60) ≠ minuteRead.key := by
    decide +kernel
  simp only [busyMinute, List.forall_mem_cons]
  refine ⟨trivial, trivial, trivial, trivial, fun _ => ?_, fun _ => ?_, trivial,
    List.forall_mem_nil _⟩
  · exact other _ (by simp)
  · exact other _ (by simp)

/-- After almost a minute a read is answered from what was kept. -/
theorem minuteRead_replayed :
    let kept := (hourGateway.runSingle minuteRead ⟨"demo", none⟩).run promptOthers.answer emptyStage
    let later := kept.2.play promptOthers hourGateway busyMinute
    let again := hourGateway.runSingle blankRead ⟨"other", none⟩
    ∃ o, kept.1.Shows o ∧ Repeats kept.1 (again.run promptOthers.answer later).1 o.payload
      ⟨0, 0⟩ (.ofSeconds 60) (again.transcript promptOthers.answer later) := by
  intro kept later again
  have evaluated : (kept.1.cacheHit = some (.miss false) ∧ kept.2.now = ⟨0, 0⟩) ∧
      (kept.1.data.any fun data => data.depth < Json.nestingLimit) = true ∧
      (Json.object kept.1.extra).depth < Json.nestingLimit ∧
      (((hourGateway.runSingle minuteRead ⟨"demo", none⟩).transcript promptOthers.answer
        emptyStage).all Event.isPlain) = true := by
    decide +kernel
  obtain ⟨⟨miss, now⟩, dataDepth, extraDepth, plain⟩ := evaluated
  have gated : ((prepare hourGateway.policy blankRead ⟨"other", none⟩).run promptOthers.answer
      later).1.toOption.any (fun p => p.operation = .read) = true ∧
      ((prepare hourGateway.policy blankRead ⟨"other", none⟩).run promptOthers.answer
        later).2.now = ⟨59, 0⟩ := by
    decide +kernel
  rcases passes : (prepare hourGateway.policy blankRead ⟨"other", none⟩).run promptOthers.answer
    later with ⟨result, gate⟩
  rw [passes] at gated
  obtain ⟨read, time⟩ := gated
  cases result with
  | error => cases read
  | ok p =>
    obtain ⟨before, o, stored, _, shows, repeats, _⟩ := replay_until_expiry promptOthers
      hourGateway emptyStage (by decide +kernel) Cache.Memory.onePerKey_empty minuteRead
      ⟨"demo", none⟩ kept.1 kept.2 (Prod.eta _).symm miss
      (fun sql options o ran => regular_of_isPlain (List.all_eq_true.mp plain _ ran))
      busyMinute busyMinute_spares blankRead ⟨"other", none⟩ (by decide +kernel) rfl p gate
      passes (of_decide_eq_true read) (again.run promptOthers.answer later).1
      (again.run promptOthers.answer later).2 (Prod.eta _).symm
    have shallow : o.Shallow := by
      obtain ⟨data, _, extra⟩ := shows
      rw [data] at dataDepth
      rw [extra] at extraDepth
      exact ⟨of_decide_eq_true dataDepth, extraDepth⟩
    rw [now, time] at repeats
    exact ⟨o, shows, repeats (by decide +kernel) shallow⟩

/-- Nothing, in that many arrays. -/
def Json.nested : Nat → Json
  | 0 => .null
  | n + 1 => .array [nested n]

theorem Json.regular_nested (n : Nat) : (nested n).Regular := by
  induction n with
  | zero => trivial
  | succ n ih => exact ⟨ih, trivial⟩

/-- An outcome in so many arrays that what is kept of it cannot be read. -/
def deepOutcome : Outcome := .rows (.nested Json.nestingLimit)

/-- Others who answer a statement with this outcome. -/
def deepOthers : Others Unit where
  reply
    | .execute .., _ => (.ok deepOutcome, ())
    | call, _ => agreeable call ()
  clock _ := ⟨0, 0⟩

/-- A read with `INTO` and a blank outside ASCII as the alias of its column. -/
def aliasRead : Request := { minuteRead with sql := "SELECT 1 INTO\u00a0", apiKey := some "key" }

/-- The same text up to blanks, which creates a table with that blank as its name. -/
def blankTable : Request := { minuteRead with sql := "SELECT 1 INTO \u00a0", apiKey := some "key" }

/-- A request is answered as an earlier one was, out of what is kept, if it comes at once. -/
def Replays {σ : Type} (w : Others σ) (g : Gateway) (s : Stage σ) (r r' : Request)
    (account : AccountContext) : Prop :=
  ∀ e kept p gate, (g.runSingle r account).run w.answer s = (e, kept) →
    e.cacheHit = some (.miss false) →
    (prepare g.policy r' account).run w.answer kept = (.ok p, gate) →
    (kept.now.after (g.timeToLive r)).notAfter gate.now = false →
    ∃ payload, Repeats e ((g.runSingle r' account).run w.answer kept).1 payload kept.now
      (g.timeToLive r) ((g.runSingle r' account).transcript w.answer kept)

section Replays

variable {σ : Type} (w : Others σ) (g : Gateway) (s : Stage σ) (r r' : Request)
  (account : AccountContext)

/-- The stages at which a request comes at once, by evaluation. -/
theorem exists_stages (operation : Operation) (h :
    let kept := (g.runSingle r account).run w.answer s
    let gate := (prepare g.policy r' account).run w.answer kept.2
    kept.1.cacheHit = some (.miss false) ∧
      gate.1.toOption.any (fun p => p.operation = operation) = true ∧
      (kept.2.now.after (g.timeToLive r)).notAfter gate.2.now = false) :
    ∃ e kept p gate, (g.runSingle r account).run w.answer s = (e, kept) ∧
      e.cacheHit = some (.miss false) ∧
      (prepare g.policy r' account).run w.answer kept = (.ok p, gate) ∧ p.operation = operation ∧
      (kept.now.after (g.timeToLive r)).notAfter gate.now = false := by
  rcases ran : (g.runSingle r account).run w.answer s with ⟨e, kept⟩
  rcases passes : (prepare g.policy r' account).run w.answer kept with ⟨result, gate⟩
  rw [ran] at h
  dsimp only at h
  rw [passes] at h
  obtain ⟨miss, admitted, alive⟩ := h
  cases result with
  | error => cases admitted
  | ok p => exact ⟨e, kept, p, gate, rfl, miss, passes, of_decide_eq_true admitted, alive⟩

variable {w g s r r' account}

/-- What runs something is not answered out of what is kept. -/
theorem not_replays_of_runs {e : Envelope} {kept gate : Stage σ} {p : Prepared}
    (ran : (g.runSingle r account).run w.answer s = (e, kept))
    (miss : e.cacheHit = some (.miss false))
    (passes : (prepare g.policy r' account).run w.answer kept = (.ok p, gate))
    (alive : (kept.now.after (g.timeToLive r)).notAfter gate.now = false)
    (runs : ranStatements ((g.runSingle r' account).transcript w.answer kept) ≠ []) :
    ¬ Replays w g s r r' account := by
  intro replays
  obtain ⟨payload, repeats⟩ := replays e kept p gate ran miss passes alive
  exact runs repeats.runsNothing

end Replays

theorem blankTable_not_replayed :
    ¬ Replays promptOthers hourGateway emptyStage aliasRead blankTable ⟨"demo", some "key"⟩ := by
  obtain ⟨e, kept, p, gate, ran, miss, passes, creates, alive⟩ :=
    exists_stages promptOthers hourGateway emptyStage aliasRead blankTable ⟨"demo", some "key"⟩
      .createWithKey (by decide +kernel)
  refine not_replays_of_runs ran miss passes alive ?_
  rw [ranStatements_of_change passes (by rw [creates]; decide)]
  exact List.cons_ne_nil _ _

theorem deepRead_not_replayed :
    ¬ Replays deepOthers hourGateway emptyStage minuteRead minuteRead ⟨"demo", none⟩ := by
  obtain ⟨e, kept, p, gate, ran, miss, passes, read, alive⟩ :=
    exists_stages deepOthers hourGateway emptyStage minuteRead minuteRead ⟨"demo", none⟩ .read
      (by decide +kernel)
  have first := yields_transcript deepOthers.answer
    (hourGateway.runSingle minuteRead ⟨"demo", none⟩) emptyStage
  rw [ran] at first
  obtain ⟨before, o, stored, executed, transcript, _, wants⟩ := kept_of_miss first miss
  obtain ⟨_, answered⟩ := exists_reply executed
  cases answered
  have deep : ¬ deepOutcome.Shallow := by
    decide +kernel
  have regular : deepOutcome.Regular := Outcome.regular_rows (Json.regular_nested _)
  have empty : emptyStage.memory.OnePerKey := Cache.Memory.onePerKey_empty
  have spares : ∀ h ∈ ([] : List Happening), h.Spares hourGateway minuteRead.key :=
    List.forall_mem_nil _
  have again := runsAgain_of_deep empty ran transcript regular deep spares rfl wants passes read
  refine not_replays_of_runs ran miss passes alive ?_
  have runs := again.runs
  rw [Stage.play_nil] at runs
  rw [runs]
  exact List.cons_ne_nil _ _

/-- Two requests that come at once are not answered from what is kept: one with the same text up
to blanks, which is no read, and the same read, if its outcome is nested too deep. -/
theorem some_not_replayed :
    (Text.trim blankTable.sql = Text.trim aliasRead.sql ∧
      blankTable.lifetime = aliasRead.lifetime ∧
      ¬ Replays promptOthers hourGateway emptyStage aliasRead blankTable ⟨"demo", some "key"⟩) ∧
    deepOutcome.Regular ∧
      ¬ Replays deepOthers hourGateway emptyStage minuteRead minuteRead ⟨"demo", none⟩ :=
  ⟨⟨by decide +kernel, rfl, blankTable_not_replayed⟩, Outcome.regular_rows (Json.regular_nested _),
    deepRead_not_replayed⟩

end QueryGateway
