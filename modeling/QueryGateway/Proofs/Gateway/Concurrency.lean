import QueryGateway.Proofs.Cache.Key
import QueryGateway.Proofs.Gateway.Holding
import QueryGateway.Proofs.Gateway.Payload

/-! Requests that are answered at the same time, over one memory.

A scene has any number of threads, each a job with what is left of it. A move lets one
thread put its next call, lets time pass, purges the memory, or lets a new job in; moves come
in any order. The log has all calls that were put, and tells what the memory holds: for each
key what was kept last (`Sound.holds`). So a read that is served gets what the last store
under its key before its lookup had kept, and that is what some read for the same statement
and lifetime was answered by the database (`cached_read_safe`). -/
namespace QueryGateway

open Dialogue

/-! ### Scenes -/

/-- A job with what is left of it. -/
structure Thread where
  job : Job
  rest : Consultation StreamAnswer

/-- A call that a thread put, with its answer. -/
structure Moment where
  who : Nat
  time : Instant
  event : Event

/-- The time, what the memory holds, the threads, and all calls that were put. -/
structure Scene where
  now : Instant
  memory : Cache.Memory := {}
  threads : List Thread := []
  log : List Moment := []

/-- What happens next. A thread that takes its turn gets its answer from the memory, or from
the others. -/
inductive Move where
  | tick (time : Instant)
  | purge
  | enter (job : Job)
  | turn (who : Nat) (others : (c : Call) → c.Answer)

namespace Scene

/-- The scene after the next call of a thread, if it has one. -/
def turn (s : Scene) (who : Nat) (others : (c : Call) → c.Answer) : Scene :=
  match s.threads[who]? with
  | some ⟨job, .ask call next⟩ =>
    let answer := s.memory.answer s.now others call
    { s with
      memory := s.memory.after s.now call
      threads := s.threads.set who ⟨job, next answer⟩
      log := s.log ++ [⟨who, s.now, call, answer⟩] }
  | _ => s

/-- The scene after a move. -/
def step (g : Gateway) (s : Scene) : Move → Scene
  | .tick time => { s with now := s.now.forwardTo time }
  | .purge => { s with memory := s.memory.purge s.now }
  | .enter job => { s with threads := s.threads ++ [⟨job, g.perform job⟩] }
  | .turn who others => s.turn who others

/-- The scene after moves. -/
def play (g : Gateway) (s : Scene) (moves : List Move) : Scene := moves.foldl (step g) s

/-- The calls that a thread put. -/
def events (s : Scene) (who : Nat) : List Event :=
  (s.log.filter fun m => m.who = who).map Moment.event

/-- The job of a thread. -/
def job? (s : Scene) (who : Nat) : Option Job := s.threads[who]?.map Thread.job

/-- The answer of a thread that is done. -/
def answer? (s : Scene) (who : Nat) : Option StreamAnswer :=
  match s.threads[who]? with
  | some ⟨_, .done answer⟩ => some answer
  | _ => none

end Scene

/-! ### What was kept last -/

/-- The entry that a moment makes for a key. -/
def Moment.entryFor (key : Cache.Key) (m : Moment) : Option Cache.Entry :=
  m.event.1.entryFor m.time key

/-- The entry that the last call to keep something under a key made. -/
def lastEntry (log : List Moment) (key : Cache.Key) : Option Cache.Entry :=
  log.reverse.findSome? (Moment.entryFor key)

theorem lastEntry_concat (log : List Moment) (m : Moment) (key : Cache.Key) :
    lastEntry (log ++ [m]) key = (m.entryFor key).or (lastEntry log key) :=
  Cache.findSome?_reverse_concat ..

theorem lastEntry_eq_some {log : List Moment} {key : Cache.Key} {e : Cache.Entry} :
    lastEntry log key = some e ↔ ∃ before kept between, log = before ++ kept :: between ∧
      kept.entryFor key = some e ∧ ∀ m ∈ between, m.entryFor key = none :=
  Cache.findSome?_reverse_eq_some

/-! ### What every scene has in common -/

/-- The log accounts for a scene: for what the memory holds, for what every lookup was
answered, and for how far every thread has come. -/
structure Sound (g : Gateway) (s : Scene) : Prop where
  now : Instant.inCalendar s.now.second = true
  times : ∀ m ∈ s.log, Instant.inCalendar m.time.second = true
  once : s.memory.OnePerKey
  holds : ∀ later, s.now.notAfter later = true → ∀ key,
    s.memory.get? later key = Cache.unexpired later (lastEntry s.log key)
  found : ∀ before m after, s.log = before ++ m :: after → ∀ key answer,
    m.event = ⟨.lookUp key, answer⟩ →
      answer = .ok (Cache.unexpired m.time (lastEntry before key))
  known : ∀ m ∈ s.log, m.who < s.threads.length
  onward : ∀ who job rest, s.threads[who]? = some ⟨job, rest⟩ → ∀ events answer,
    rest.Yields events answer → (g.perform job).Yields (s.events who ++ events) answer

section Sound

variable {g : Gateway} {s : Scene}

theorem sound_start {start : Instant} (h : Instant.inCalendar start.second = true) :
    Sound g { now := start } where
  now := h
  times := List.forall_mem_nil _
  once := Cache.Memory.onePerKey_empty
  holds _ _ _ := rfl
  found before m after h := by simp at h
  known := List.forall_mem_nil _
  onward who job rest h := by simp at h

theorem Sound.tick (h : Sound g s) (time : Instant) :
    Sound g { s with now := s.now.forwardTo time } :=
  { h with
    now := Instant.inCalendar_forwardTo h.now time
    holds := fun later hlater =>
      h.holds later (Instant.notAfter_trans (Instant.notAfter_forwardTo s.now time) hlater) }

theorem Sound.purge (h : Sound g s) :
    Sound g { s with memory := s.memory.purge s.now } :=
  { h with
    once := h.once.purge s.now
    holds := fun later hlater key => by
      rw [Cache.Memory.get?_purge h.once hlater]
      exact h.holds later hlater key }

theorem Scene.events_eq_nil (h : ∀ m ∈ s.log, m.who < s.threads.length) :
    s.events s.threads.length = [] := by
  rw [Scene.events, List.map_eq_nil_iff, List.filter_eq_nil_iff]
  intro m hm
  have earlier := h m hm
  simp only [decide_eq_true_eq]
  omega

theorem Sound.enter (h : Sound g s) (job : Job) :
    Sound g { s with threads := s.threads ++ [⟨job, g.perform job⟩] } :=
  { h with
    known := fun m hm => by
      rw [List.length_append]
      exact Nat.lt_add_right _ (h.known m hm)
    onward := fun who job' rest found events answer hrest => by
      by_cases new : who < s.threads.length
      · rw [List.getElem?_append_left new] at found
        exact h.onward who job' rest found events answer hrest
      · rw [List.getElem?_append_right (Nat.le_of_not_lt new)] at found
        obtain ⟨last, entered⟩ := List.getElem?_eq_some_iff.mp found
        have first : who = s.threads.length := by
          simp only [List.length_singleton] at last
          omega
        subst first
        simp only [Nat.sub_self, List.getElem_cons_zero] at entered
        cases entered
        have none : Scene.events { s with threads := s.threads ++ [⟨job, g.perform job⟩] }
            s.threads.length = [] := Scene.events_eq_nil h.known
        rw [none]
        exact hrest }

/-- A scene stays accounted for when a thread puts its next call. -/
theorem Sound.put (h : Sound g s) {who : Nat} {job : Job} {call : Call}
    {next : call.Answer → Consultation StreamAnswer} (others : (c : Call) → c.Answer)
    (waiting : s.threads[who]? = some ⟨job, .ask call next⟩) :
    Sound g { s with
      memory := s.memory.after s.now call
      threads := s.threads.set who ⟨job, next (s.memory.answer s.now others call)⟩
      log := s.log ++ [⟨who, s.now, call, s.memory.answer s.now others call⟩] } where
  now := h.now
  times := List.forall_mem_append.mpr ⟨h.times, List.forall_mem_singleton.mpr h.now⟩
  once := h.once.after s.now call
  holds later hlater key := by
    rw [Cache.Memory.get?_after, lastEntry_concat, Moment.entryFor]
    cases call.entryFor s.now key with
    | some e => rfl
    | none => exact h.holds later hlater key
  found before m after hlog key answer hm := by
    rcases Cache.eq_of_concat_eq_append hlog with ⟨rfl, rfl, rfl⟩ | ⟨after', _, hlog'⟩
    · cases hm
      exact congrArg Except.ok (h.holds s.now (Instant.notAfter_refl _) key)
    · exact h.found before m after' hlog' key answer hm
  known := by
    rw [List.length_set]
    obtain ⟨present, _⟩ := List.getElem?_eq_some_iff.mp waiting
    exact List.forall_mem_append.mpr ⟨h.known, List.forall_mem_singleton.mpr present⟩
  onward who' job' rest found events answer hrest := by
    rw [List.getElem?_set] at found
    rw [Scene.events, List.filter_append, List.map_append]
    by_cases same : who = who'
    · subst same
      rw [if_pos rfl] at found
      obtain ⟨_, rfl, rfl⟩ : who < s.threads.length ∧ job = job' ∧ next _ = rest := by
        simpa using found
      have whole := h.onward who job _ waiting _ answer (.ask _ hrest)
      simpa [Scene.events] using whole
    · rw [if_neg same] at found
      have whole := h.onward who' job' rest found events answer hrest
      simpa [Scene.events, same] using whole

theorem Sound.turn (h : Sound g s) (who : Nat) (others : (c : Call) → c.Answer) :
    Sound g (s.turn who others) := by
  unfold Scene.turn
  split
  · exact h.put others ‹_›
  · exact h

theorem Sound.step (h : Sound g s) (move : Move) : Sound g (s.step g move) := by
  cases move with
  | tick time => exact h.tick time
  | purge => exact h.purge
  | enter job => exact h.enter job
  | turn who others => exact h.turn who others

/-- Whatever the moves are, the log accounts for the scene. -/
theorem Sound.play (h : Sound g s) (moves : List Move) : Sound g (s.play g moves) := by
  induction moves generalizing s with
  | nil => exact h
  | cons move moves ih => exact ih (h.step move)

end Sound

/-! ### Reads -/

/-- The requests for one statement of a scene. -/
def Scene.requests (s : Scene) : List Request :=
  s.threads.filterMap fun t => match t.job with
    | .single r _ => some r
    | _ => none

/-- Among requests, no two keys are the same by accident. -/
def NoCollision (requests : List Request) : Prop :=
  ∀ r ∈ requests, ∀ r' ∈ requests, r.key = r'.key →
    Cache.keyBytes r.sql r.lifetime = Cache.keyBytes r'.sql r'.lifetime

/-- A thread that answers a request was answered an outcome by the database. -/
def Obtained (log : List Moment) (who : Nat) (r : Request) (o : Outcome) : Prop :=
  ∃ m ∈ log, m.who = who ∧ m.event = ⟨.execute r.sql (r.options .query), .ok o⟩

/-- The envelope of a thread shows what the thread itself was answered. -/
def Scene.RanItself (s : Scene) (who : Nat) (r : Request) (e : Envelope) : Prop :=
  ∃ o, Obtained s.log who r o ∧ e.Shows o ∧ e.cacheHit = some (.miss false)

/-- An envelope shows what another read was answered and kept, for as long as it was to be
kept, before it was looked up. -/
structure Handover (g : Gateway) (s : Scene) (before between : List Moment) (kept asked : Moment)
    (r r' : Request) (o : Outcome) (ttl : Span) (e : Envelope) : Prop where
  looks : ∃ found, asked.event = ⟨.lookUp r.key, found⟩
  keeps : kept.event.1 = .keep r.key o.payload ttl
  latest : ∀ m ∈ between, ∀ payload ttl, m.event.1 ≠ .keep r.key payload ttl
  keeper : ∃ account, s.job? kept.who = some (.single r' account)
  cached : CachedRead g r'
  statement : Text.trim r'.sql = Text.trim r.sql
  lifetime : r'.lifetime.seconds = r.lifetime.seconds
  obtained : Obtained before kept.who r' o
  shows : e.Shows o
  status : e.cacheHit =
    some (.hit kept.time (Cache.signature o.payload) (kept.time.later? ttl))
  alive : (kept.time.after ttl).notAfter asked.time = false

/-- The envelope of a thread shows what another read had kept: the last that was kept under
the key before the thread looked it up. -/
def Scene.WasServed (g : Gateway) (s : Scene) (who : Nat) (r : Request) (e : Envelope) : Prop :=
  ∃ before kept between asked after r' o ttl,
    s.log = before ++ kept :: between ++ asked :: after ∧ asked.who = who ∧
      Handover g s before between kept asked r r' o ttl e

section Reads

variable {g : Gateway} {s : Scene}

theorem mem_requests_of_job? {who : Nat} {r : Request} {account : AccountContext}
    (h : s.job? who = some (.single r account)) : r ∈ s.requests := by
  obtain ⟨t, ht, hjob⟩ := Option.map_eq_some_iff.mp h
  refine List.mem_filterMap.mpr ⟨t, List.mem_of_getElem? ht, ?_⟩
  rw [hjob]

theorem Sound.guarded (h : Sound g s) {who : Nat} {job : Job} {rest : Consultation StreamAnswer}
    (found : s.threads[who]? = some ⟨job, rest⟩) :
    Guarded (Keeping g job) [] (s.events who) :=
  have whole := h.onward who job rest found _ _ (yields_transcript agreeable rest ())
  (guarded_append.mp (guarded_of_perform whole)).1

theorem Sound.exists_thread (h : Sound g s) {m : Moment} (hm : m ∈ s.log) :
    ∃ job rest, s.threads[m.who]? = some ⟨job, rest⟩ :=
  ⟨_, _, List.getElem?_eq_getElem (h.known m hm)⟩

/-- Whatever a thread keeps, it was answered before. -/
theorem Sound.keeping (h : Sound g s) {before after : List Moment} {m : Moment}
    (hlog : s.log = before ++ m :: after) : ∃ job, s.job? m.who = some job ∧
      Keeping g job ((before.filter fun m' => m'.who = m.who).map Moment.event) m.event.1 := by
  have logged : m ∈ s.log := by
    rw [hlog]
    exact List.mem_append_right _ (List.mem_cons_self ..)
  obtain ⟨job, rest, found⟩ := h.exists_thread logged
  refine ⟨job, by rw [Scene.job?, found]; rfl, ?_⟩
  have guarded := h.guarded found
  have own : s.events m.who = (before.filter fun m' => m'.who = m.who).map Moment.event ++
      m.event :: (after.filter fun m' => m'.who = m.who).map Moment.event := by
    rw [Scene.events, hlog, List.filter_append, List.filter_cons, if_pos (by simp),
      List.map_append, List.map_cons]
  rw [own] at guarded
  have admitted := guarded.admitted
  rwa [List.nil_append] at admitted

theorem obtained_of_mem {log : List Moment} {who : Nat} {r : Request} {o : Outcome}
    (h : ⟨.execute r.sql (r.options .query), .ok o⟩ ∈
      (log.filter fun m => m.who = who).map Moment.event) : Obtained log who r o := by
  obtain ⟨m, hm, hevent⟩ := List.mem_map.mp h
  obtain ⟨hm, hwho⟩ := List.mem_filter.mp hm
  exact ⟨m, hm, of_decide_eq_true hwho, hevent⟩

/-- What is found for a request was kept last under its key by a read for the same statement
and lifetime, and has not expired. -/
theorem Sound.wasServed (h : Sound g s)
    (regular : ∀ m ∈ s.log, ∀ sql options o, m.event = ⟨.execute sql options, .ok o⟩ → o.Regular)
    (distinct : NoCollision s.requests) {who : Nat} {r : Request} (mine : r ∈ s.requests)
    {found : Except Cache.StoreError (Option Cache.Entry)} {hit : Cache.Hit} {o : Outcome}
    (asked : ⟨.lookUp r.key, found⟩ ∈ s.events who) (hhit : Cache.hitOf found = some hit)
    (readable : Outcome.ofPayload? hit.payload = some o) (verdict : Option Verdict) :
    s.WasServed g who r (g.success o verdict (some (.ofHit hit))) := by
  obtain ⟨m, hm, hevent⟩ := List.mem_map.mp asked
  obtain ⟨hm, hwho⟩ := List.mem_filter.mp hm
  obtain ⟨past, after, hlog⟩ := List.append_of_mem hm
  -- The lookup was answered what had been kept last.
  have answered := h.found past m after hlog r.key found hevent
  subst answered
  obtain ⟨e, hfound, rfl⟩ := Cache.hitOf_eq_some.mp hhit
  obtain ⟨hlast, alive⟩ := Cache.unexpired_eq_some.mp hfound
  obtain ⟨before, kept, between, rfl, hkept, hbetween⟩ := lastEntry_eq_some.mp hlast
  obtain ⟨payload, ttl, hcall, rfl⟩ := Call.entryFor_eq_some.mp hkept
  -- Whoever kept it had been answered it.
  have split : s.log = before ++ kept :: (between ++ m :: after) := by
    rw [hlog, List.append_assoc, List.cons_append]
  have keptLogged : kept ∈ s.log := by
    rw [split]
    exact List.mem_append_right _ (List.mem_cons_self ..)
  obtain ⟨job, hjob, keeping⟩ := h.keeping split
  obtain ⟨r', account, o', rfl, cached, hran, hkey, rfl, httl⟩ := keeping _ _ _ hcall
  have obtained := obtained_of_mem hran
  have hregular : o'.Regular := by
    obtain ⟨ran, hran, _, hevent⟩ := obtained
    exact regular ran (by rw [split]; exact List.mem_append_left _ hran) _ _ o' hevent
  obtain rfl := Outcome.eq_of_ofPayload?_payload hregular readable
  obtain ⟨statement, lifetime⟩ :=
    Cache.keyBytes_inj.mp (distinct r' (mem_requests_of_job? hjob) r mine hkey.symm)
  have lives : ttl.isZero = false := by
    rw [httl]
    exact Cache.isZero_effectiveTtl _ _
  refine ⟨before, kept, between, m, after, r', o, ttl, hlog, of_decide_eq_true hwho, ?_⟩
  exact {
    looks := ⟨_, hevent⟩
    keeps := hcall
    latest := fun m' hm' payload ttl same => by
      have none := hbetween m' hm'
      rw [Moment.entryFor, same, Call.entryFor, if_pos rfl] at none
      cases none
    keeper := ⟨account, hjob⟩
    cached := cached
    statement := statement
    lifetime := lifetime
    obtained := obtained
    shows := g.success_shows ..
    status := congrArg some (CacheStatus.ofHit_hit lives)
    alive := by
      rw [← alive, Cache.Entry.isExpired_eq lives (h.times kept keptLogged) (h.times m hm)] }

end Reads

/-- **Reads that go through the memory at the same time as anything else are safe.** In every
scene that can be reached, a read that was answered well shows what it was itself answered by
the database, or what a read for the same statement and lifetime was answered and kept, last
under this key before the lookup, and less than its time to live before it. -/
theorem cached_read_safe (g : Gateway) (start : Instant) (moves : List Move)
    (calendar : Instant.inCalendar start.second = true)
    (regular : ∀ m ∈ (Scene.play g { now := start } moves).log, ∀ sql options o,
      m.event = ⟨.execute sql options, .ok o⟩ → o.Regular)
    (distinct : NoCollision (Scene.play g { now := start } moves).requests)
    (who : Nat) (r : Request) (account : AccountContext) (e : Envelope)
    (job : (Scene.play g { now := start } moves).job? who = some (.single r account))
    (answer : (Scene.play g { now := start } moves).answer? who = some (.envelope e))
    (cached : CachedRead g r) (success : e.success = true) :
    (Scene.play g { now := start } moves).RanItself who r e ∨
      (Scene.play g { now := start } moves).WasServed g who r e := by
  have sound : Sound g (Scene.play g { now := start } moves) := (sound_start calendar).play moves
  generalize Scene.play g { now := start } moves = s at *
  obtain ⟨⟨job', rest⟩, found, rfl⟩ := Option.map_eq_some_iff.mp job
  obtain rfl : rest = .done (.envelope e) := by
    rw [Scene.answer?, found] at answer
    cases rest with
    | done answer' => exact congrArg Dialogue.done (Option.some.inj answer)
    | ask => cases answer
  have whole := sound.onward who _ _ found [] _ (.done _)
  rw [List.append_nil] at whole
  obtain ⟨e', hsingle, same⟩ := yields_map.mp whole
  cases same
  obtain ⟨wants, inspected, hinspected, hread⟩ := cached
  rcases runSingle_cases hsingle with ⟨_, _, rfl⟩ | ⟨p, asked, rest, own, hprepare, course⟩
  · cases success
  · obtain ⟨sql, inspected', hinspected', hoperation⟩ := inspect_of_prepare hprepare
    have operation : p.operation = .read := by
      rw [← hoperation, ← hread]
      rw [hinspected] at hinspected'
      cases hinspected'
      rfl
    cases course with
    | change plain => exact absurd operation plain
    | read _ uncached =>
      rw [wants] at uncached
      cases uncached
    | failed => cases success
    | kept _ _ _ o stored =>
      refine .inl ⟨o, obtained_of_mem ?_, g.success_shows .., rfl⟩
      show _ ∈ s.events who
      rw [own, sql]
      simp
    | served _ _ hhit readable =>
      refine .inr (sound.wasServed regular distinct (mem_requests_of_job? job) ?_ hhit readable _)
      rw [own, sql]
      exact List.mem_append_right _ (List.mem_singleton.mpr rfl)

/-! ### Two misses and a hit -/

/-- The job that a move lets in. -/
def Move.entered? : Move → Option Job
  | .enter job => some job
  | _ => none

/-- The jobs of a scene are those that were let in, in this order. -/
theorem Scene.jobs_play (g : Gateway) (s : Scene) (moves : List Move) :
    (s.play g moves).threads.map Thread.job =
      s.threads.map Thread.job ++ moves.filterMap Move.entered? := by
  induction moves generalizing s with
  | nil => exact (List.append_nil _).symm
  | cons move moves ih =>
    refine (ih (s.step g move)).trans ?_
    cases move with
    | tick time => rfl
    | purge => rfl
    | enter job =>
      rw [Scene.step, List.map_append, List.append_assoc]
      rfl
    | turn who others =>
      rw [Scene.step, Scene.turn]
      split
      · rename_i waiting
        obtain ⟨present, same⟩ := List.getElem?_eq_some_iff.mp waiting
        have there : who < (s.threads.map Thread.job).length := by rwa [List.length_map]
        have mine : (s.threads.map Thread.job)[who] = (s.threads[who]).job := List.getElem_map ..
        rw [same] at mine
        rw [List.map_set, ← mine, List.set_getElem_self there]
        rfl
      · rfl

/-- Two threads look up the same read, miss, and are answered by the database and keep it one
after the other; 59 seconds later the memory is purged and a third thread asks. -/
def twoMisses : List Move :=
  let enter : Move := .enter (.single minuteRead ⟨"demo", none⟩)
  let turn (who : Nat) : Move := .turn who fun c => (agreeable c ()).1
  [enter, enter, turn 0, turn 1, turn 0, turn 1, turn 1, turn 0, .tick ⟨59, 0⟩, .purge, enter,
    turn 2]

/-- Whether an answer comes from what was kept, and is a good one. -/
def StreamAnswer.isServed : StreamAnswer → Bool
  | .envelope e => e.success && e.cacheHit.any CacheStatus.isHit
  | .rows _ => false

/-- The third thread is served what one of the first two kept. -/
theorem twoMisses_safe :
    let s := Scene.play hourGateway { now := ⟨0, 0⟩ } twoMisses
    ∃ e, s.answer? 2 = some (.envelope e) ∧ e.success = true ∧
      (e.cacheHit.any CacheStatus.isHit) = true ∧
      (s.RanItself 2 minuteRead e ∨ s.WasServed hourGateway 2 minuteRead e) := by
  intro s
  have jobs : s.threads.map Thread.job =
      List.replicate 3 (.single minuteRead ⟨"demo", none⟩) :=
    Scene.jobs_play hourGateway { now := ⟨0, 0⟩ } twoMisses
  have ran : (s.log.all fun m => m.event.isPlain) = true ∧
      (s.answer? 2).any StreamAnswer.isServed = true := by
    decide +kernel
  obtain ⟨plain, answered⟩ := ran
  cases answer : s.answer? 2 with
  | none =>
    rw [answer] at answered
    cases answered
  | some answer' =>
    rw [answer] at answered
    cases answer' with
    | rows => cases answered
    | envelope e =>
      obtain ⟨success, hit⟩ := Bool.and_eq_true_iff.mp answered
      refine ⟨e, rfl, success, hit, cached_read_safe hourGateway ⟨0, 0⟩ twoMisses
        (by decide +kernel) ?_ ?_ 2 minuteRead ⟨"demo", none⟩ e ?_ answer ?_ success⟩
      · intro m hm sql options o hevent
        have hplain := List.all_eq_true.mp plain m hm
        rw [hevent] at hplain
        exact regular_of_isPlain hplain
      · have only : ∀ r ∈ s.requests, r = minuteRead := by
          intro r hr
          obtain ⟨t, ht, hr⟩ := List.mem_filterMap.mp hr
          have hjob : t.job ∈ s.threads.map Thread.job := List.mem_map_of_mem ht
          rw [jobs] at hjob
          rw [List.eq_of_mem_replicate hjob] at hr
          exact (Option.some.inj hr).symm
        intro r hr r' hr' _
        rw [only r hr, only r' hr']
      · rw [Scene.job?, ← List.getElem?_map, jobs]
        rfl
      · obtain ⟨found, inspected, read⟩ := exists_inspection hourGateway.policy minuteRead.sql
          (fun found => found.operation = .read) (by decide +kernel)
        exact ⟨rfl, found, inspected, of_decide_eq_true read⟩

end QueryGateway
