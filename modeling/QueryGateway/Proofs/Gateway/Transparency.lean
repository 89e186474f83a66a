import QueryGateway.Proofs.Cache.Key
import QueryGateway.Proofs.Cache.Store
import QueryGateway.Proofs.Gateway.Clearance
import QueryGateway.Proofs.Gateway.Payload

/-! What the cache changes in the answers to requests.

The same requests are put to a gateway that keeps its results in memory and to one that
keeps nothing. A result is kept under its statement and the whole seconds of its lifetime
alone, so the answers are the same if and only if every result that is served is also what
the options of the request it is served to ask for (`cache_transparent_iff`). -/
namespace QueryGateway

open Dialogue

/-! ### Requests in a row -/

/-- An authorizer with a state of its own, and a database whose answer depends on the
statement, up to the blanks around it, and on the options. -/
structure World (σ : Type) where
  authorize : String → Question → σ → Verdict × σ
  outcome : String → ExecutionOptions → Except ExecutionError Outcome

/-- A request, with the times at which the store is asked and given something. -/
structure Visit where
  request : Request
  account : AccountContext
  asked : Instant
  kept : Instant

/-- Two requests for the same statement, up to the blanks around it, and the same lifetime, up
to parts of a second. -/
def Visit.same (u v : Visit) : Prop :=
  Text.trim u.request.sql = Text.trim v.request.sql ∧
    u.request.lifetime.seconds = v.request.lifetime.seconds

instance (u v : Visit) : Decidable (u.same v) := inferInstanceAs (Decidable (_ ∧ _))

/-- The key of a request. -/
def Visit.key (v : Visit) : Cache.Key := Cache.Key.of v.request.sql v.request.lifetime

namespace World

variable {σ : Type} (w : World σ) (g : Gateway)

/-- How the collaborators answer during a request: the store does what it is asked. -/
def reply (v : Visit) : (c : Call) → σ × Cache.Store → c.Answer × (σ × Cache.Store)
  | .authorize account q, (a, store) =>
    ((w.authorize account q a).1, ((w.authorize account q a).2, store))
  | .lookUp key, (a, store) => (.ok (store.get? v.asked key), (a, store))
  | .keep key payload ttl, (a, store) => (.ok (), (a, store.put v.kept key payload ttl))
  | .execute sql options, s => (w.outcome (Text.trim sql) options, s)
  | .openBatch, s => (.ok (), s)
  | .executeInBatch sql options, s => (w.outcome (Text.trim sql) options, s)
  | .commit, s => (.ok (), s)
  | .rollback, s => (.ok (), s)
  | .stream .., s => ([], s)

/-- The answer to a request, and what it leaves behind. -/
def answer (v : Visit) (s : σ × Cache.Store) : Envelope × (σ × Cache.Store) :=
  (g.runSingle v.request v.account).run (w.reply v) s

/-- The answers to requests, one after the other. -/
def answers : List Visit → σ × Cache.Store → List Envelope
  | [], _ => []
  | v :: rest, s => (w.answer g v s).1 :: answers rest (w.answer g v s).2

/-- What the database answers to the statement of a request with the options of another. -/
def outcomeFor (v : Visit) (options : Request) : Except ExecutionError Outcome :=
  w.outcome (Text.trim v.request.sql) (options.options .query)

end World

namespace Envelope

/-- An envelope without what it says about the cache, the authorization and the memory. -/
def plain (e : Envelope) : Envelope :=
  { e with cacheHit := none, authCheck := none, peakMemoryUsage := none }

/-- Whether the answer was run and kept. -/
def isKept (e : Envelope) : Bool :=
  match e.cacheHit with
  | some (.miss _) => true
  | _ => false

/-- Whether the answer was served from what is kept. -/
def isServed (e : Envelope) : Bool :=
  match e.cacheHit with
  | some (.hit ..) => true
  | _ => false

end Envelope

/-- A request with its answer. -/
abbrev Answered := Visit × Envelope

/-- The last request for the same statement and lifetime that was run and kept. -/
def lastKept (past : List Answered) (v : Visit) : Option Visit :=
  (past.reverse.find? fun x => x.2.isKept && decide (x.1.same v)).map (·.1)

/-- Of requests with their answers, the second is served what the first one was answered. -/
def Serves (record : List Answered) (u v : Visit) : Prop :=
  ∃ before e after, record = before ++ (v, e) :: after ∧ e.isServed = true ∧
    lastKept before v = some u

/-! ### One request -/

section Answer

variable {σ : Type} (w : World σ) (g : Gateway) (v : Visit)

/-- The authorizer answers regardless of what is kept, and leaves it alone. -/
theorem run_authorizeAll (account : String) (credentials : Credentials) (requireWrite : Bool)
    (known names : List String) (last : Option Verdict) (a : σ) :
    ∃ result a', ∀ store, (authorizeAll account credentials requireWrite known names last).run
      (w.reply v) (a, store) = (result, (a', store)) := by
  induction names generalizing last a with
  | nil => exact ⟨.ok last, a, fun _ => rfl⟩
  | cons relation rest ih =>
    rcases asked : w.authorize account ⟨relation, credentials, requireWrite, known⟩ a with
      ⟨verdict, a'⟩
    have first (store : Cache.Store) : (Call.put (.authorize account
        ⟨relation, credentials, requireWrite, known⟩)).run (w.reply v) (a, store) =
          (verdict, (a', store)) := by
      show ((w.authorize ..).1, ((w.authorize ..).2, store)) = _
      rw [asked]
    cases granted : verdict.success with
    | true =>
      obtain ⟨result, a'', h⟩ := ih (some verdict) a'
      refine ⟨result, a'', fun store => ?_⟩
      rw [authorizeAll, run_bind, first, if_pos granted, h]
    | false =>
      refine ⟨.error ⟨relation, verdict⟩, a', fun store => ?_⟩
      rw [authorizeAll, run_bind, first, if_neg (by rw [granted]; decide)]
      rfl

theorem run_prepare (policy : Policy) (r : Request) (account : AccountContext) (a : σ) :
    ∃ result a', (∀ p, result = .ok p → p.sql = r.sql) ∧ ∀ store,
      (prepare policy r account).run (w.reply v) (a, store) = (result, (a', store)) := by
  obtain ⟨result, a', same⟩ : ∃ result a', ∀ store,
      (prepare policy r account).run (w.reply v) (a, store) = (result, (a', store)) := by
    unfold prepare
    split
    · exact ⟨_, a, fun _ => rfl⟩
    · rename_i found _
      obtain ⟨checked, a', h⟩ := run_authorizeAll w v account.name r.credentials
        found.operation.requiresWrite found.relations.names found.relations.names none a
      simp only [checkRelations, run_bind, h]
      cases checked with
      | error denial => exact ⟨_, a', fun _ => rfl⟩
      | ok verdict =>
        dsimp only
        split
        · exact ⟨_, a', fun _ => rfl⟩
        · exact ⟨_, a', fun _ => rfl⟩
  refine ⟨result, a', fun p hp => ?_, same⟩
  have run := yields_transcript (w.reply v) (prepare policy r account) (a, .disabled)
  rw [same, hp] at run
  exact (cleared_of_prepare run).1

/-- The envelope of what the database answers. -/
def settled (p : Prepared) (cache : Option CacheStatus) :
    Except ExecutionError Outcome → Envelope
  | .ok o => g.success o p.verdict cache
  | .error e => g.failure (.execution e)

/-- An envelope tells which outcome it is of, whatever it says about the cache. -/
theorem settled_plain_inj {p : Prepared} {cache cache' : Option CacheStatus} {o : Outcome}
    {result : Except ExecutionError Outcome} :
    (settled g p cache (.ok o)).plain = (settled g p cache' result).plain ↔ .ok o = result := by
  constructor
  · intro same
    cases result with
    | error e => cases congrArg Envelope.success same
    | ok o' =>
      obtain ⟨data, affected, extra⟩ := o
      obtain ⟨data', affected', extra'⟩ := o'
      cases congrArg Envelope.data same
      cases congrArg Envelope.affectedRows same
      cases congrArg Envelope.extra same
      rfl
  · intro same
    rw [← same]
    rfl

theorem run_execute (sql : String) (options : ExecutionOptions) (s : σ × Cache.Store) :
    (Gateway.execute sql options).run (w.reply v) s =
      ((w.outcome (Text.trim sql) options).mapError .execution, s) := rfl

section Prepared

variable (p : Prepared) (s : σ × Cache.Store)

/-- A change is answered by the database. -/
theorem run_change (h : p.operation ≠ .read) :
    ((g.runPrepared v.request p).run (w.reply v) s).map g.settle id =
      (settled g p none (w.outcome (Text.trim p.sql) (v.request.options .mutation)), s) := by
  rw [Gateway.runPrepared, if_neg h, run_bind, run_execute]
  cases w.outcome (Text.trim p.sql) (v.request.options .mutation) <;> rfl

/-- A read that is not to be kept is answered by the database. -/
theorem run_uncached (h : v.request.wantsCache = false) :
    ((g.runRead v.request p).run (w.reply v) s).map g.settle id =
      (settled g p none (w.outcome (Text.trim p.sql) (v.request.options .query)), s) := by
  rw [Gateway.runRead, if_neg (by rw [h]; decide), run_bind, run_execute]
  cases w.outcome (Text.trim p.sql) (v.request.options .query) <;> rfl

/-- A read that is to be kept is answered by the database and kept, unless it fails. -/
theorem run_runAndKeep (h : v.request.wantsCache = true) (key : Cache.Key) (a : σ) : ∃ ttl,
    ∀ store, ((g.runAndKeep v.request p key).run (w.reply v) (a, store)).map g.settle id =
      match w.outcome (Text.trim p.sql) (v.request.options .query) with
      | .ok o => (g.success o p.verdict (some (.miss false)),
          (a, store.put v.kept key o.payload ttl))
      | .error e => (g.failure (.execution e), (a, store)) := by
  have some? : Cache.ttlFor? g.longestLifetime v.request.lifetime =
      some (Cache.effectiveTtl g.longestLifetime v.request.lifetime) := by
    rw [Cache.ttlFor?, if_neg]
    rw [Request.wantsCache] at h
    simpa using h
  refine ⟨Cache.effectiveTtl g.longestLifetime v.request.lifetime, fun store => ?_⟩
  rw [Gateway.runAndKeep, run_bind, run_execute]
  cases w.outcome (Text.trim p.sql) (v.request.options .query) with
  | error e => rfl
  | ok o =>
    dsimp only [Except.mapError]
    rw [some?]
    rfl

/-- A read that may be kept begins with a look at what is kept. -/
theorem run_lookUp (h : v.request.wantsCache = true) (sql : p.sql = v.request.sql) (a : σ)
    (store : Cache.Store) :
    (g.runRead v.request p).run (w.reply v) (a, store) = Dialogue.run (w.reply v)
      (match (Cache.hitOf (.ok (store.get? v.asked v.key))).bind (g.served p) with
        | some e => pure (.ok e)
        | none => g.runAndKeep v.request p v.key) (a, store) := by
  rw [Gateway.runRead, if_pos h, sql]
  dsimp only
  rw [run_bind]
  rfl

end Prepared

/-- What is served was kept under the key, and can be read. -/
theorem exists_of_served {m : Cache.Memory} {now : Instant} {key : Cache.Key} {p : Prepared}
    {e : Envelope}
    (h : (Cache.hitOf (.ok ((Cache.Store.memory m).get? now key))).bind (g.served p) = some e) :
    ∃ entry o, m.entries.lookup key = some entry ∧ Outcome.ofPayload? entry.payload = some o ∧
      e = g.success o p.verdict (some (.ofHit entry.hit)) := by
  cases found : (Cache.Store.memory m).get? now key with
  | none =>
    rw [found] at h
    cases h
  | some entry =>
    rw [found] at h
    obtain ⟨kept, _⟩ := Option.filter_eq_some_iff.mp found
    have read : (Outcome.ofPayload? entry.payload).map (fun o =>
        g.success o p.verdict (some (.ofHit entry.hit))) = some e := h
    obtain ⟨o, ho, rfl⟩ := Option.map_eq_some_iff.mp read
    exact ⟨entry, o, kept, ho, rfl⟩

/-- How a request is answered, with a memory and without a store: without the cache; by what
the database answers, which is kept; or by what is kept. -/
theorem answer_cases (a : σ) (m : Cache.Memory) : ∃ a',
    (∃ e, e.isKept = false ∧ e.isServed = false ∧
      w.answer g v (a, .memory m) = (e, (a', .memory m)) ∧
      w.answer g v (a, .disabled) = (e, (a', .disabled))) ∨
    (∃ (p : Prepared) (o : Outcome) (ttl : Span), w.outcomeFor v v.request = .ok o ∧
      w.answer g v (a, .memory m) = (g.success o p.verdict (some (.miss false)),
        (a', .memory (m.put v.kept v.key o.payload ttl))) ∧
      w.answer g v (a, .disabled) = (g.success o p.verdict (some (.miss false)),
        (a', .disabled))) ∨
    (∃ (p : Prepared) (entry : Cache.Entry) (o : Outcome), m.entries.lookup v.key = some entry ∧
      Outcome.ofPayload? entry.payload = some o ∧
      w.answer g v (a, .memory m) = (g.success o p.verdict (some (.ofHit entry.hit)),
        (a', .memory m)) ∧
      w.answer g v (a, .disabled) =
        (settled g p (some (.miss false)) (w.outcomeFor v v.request), (a', .disabled))) := by
  obtain ⟨result, a', hsql, prepared⟩ := run_prepare w v g.policy v.request v.account a
  refine ⟨a', ?_⟩
  cases result with
  | error refusal =>
    refine .inl ⟨g.failure refusal, rfl, rfl, ?_, ?_⟩ <;>
    · rw [World.answer, Gateway.runSingle, run_bind, prepared]
      rfl
  | ok p =>
    have after (store : Cache.Store) : w.answer g v (a, store) =
        ((g.runPrepared v.request p).run (w.reply v) (a', store)).map g.settle id := by
      rw [World.answer, Gateway.runSingle, run_bind, prepared]
      dsimp only
      rw [run_bind]
      rfl
    have plain (result : Except ExecutionError Outcome) :
        (settled g p none result).isKept = false ∧ (settled g p none result).isServed = false := by
      cases result <;> exact ⟨rfl, rfl⟩
    rw [after, after]
    by_cases read : p.operation = .read
    · unfold Gateway.runPrepared
      rw [if_pos read]
      cases wants : v.request.wantsCache with
      | false =>
        rw [run_uncached w g v p _ wants, run_uncached w g v p _ wants]
        exact .inl ⟨_, (plain _).1, (plain _).2, rfl, rfl⟩
      | true =>
        have sql := hsql p rfl
        obtain ⟨ttl, keeps⟩ := run_runAndKeep w g v p wants v.key a'
        rw [sql] at keeps
        rw [run_lookUp w g v p wants sql, run_lookUp w g v p wants sql]
        cases found : (Cache.hitOf (.ok ((Cache.Store.memory m).get? v.asked v.key))).bind
          (g.served p) with
        | some e =>
          obtain ⟨entry, o, kept, hread, rfl⟩ := exists_of_served g found
          refine .inr (.inr ⟨p, entry, o, kept, hread, rfl, (keeps .disabled).trans ?_⟩)
          rw [World.outcomeFor]
          cases w.outcome (Text.trim v.request.sql) (v.request.options .query) <;> rfl
        | none =>
          have memory := keeps (.memory m)
          have disabled := keeps .disabled
          cases ho : w.outcome (Text.trim v.request.sql) (v.request.options .query) with
          | ok o =>
            rw [ho] at memory disabled
            exact .inr (.inl ⟨p, o, ttl, ho, memory, disabled⟩)
          | error e =>
            rw [ho] at memory disabled
            exact .inl ⟨_, rfl, rfl, memory, disabled⟩
    · rw [run_change w g v p _ read, run_change w g v p _ read]
      exact .inl ⟨_, (plain _).1, (plain _).2, rfl, rfl⟩

end Answer

/-! ### What was kept -/

section Kept

variable {σ : Type} {w : World σ} {past : List Answered} {u v : Visit} {e : Envelope}

theorem lastKept_concat (past : List Answered) (u v : Visit) (e : Envelope) :
    lastKept (past ++ [(u, e)]) v =
      if e.isKept = true ∧ u.same v then some u else lastKept past v := by
  rw [lastKept, List.reverse_concat, List.find?_cons]
  by_cases last : e.isKept = true ∧ u.same v
  · simp [last]
  · rw [if_neg last]
    have passed : (e.isKept && decide (u.same v)) = false := by
      simpa using last
    rw [passed]
    rfl

theorem lastKept_of_not_kept (h : e.isKept = false) : lastKept (past ++ [(u, e)]) v =
    lastKept past v := by
  rw [lastKept_concat, if_neg fun kept => Bool.false_ne_true (h.symm.trans kept.1)]

/-- Requests that share a key are for the same statement and lifetime. -/
def Distinct (visits : List Visit) : Prop :=
  ∀ u ∈ visits, ∀ v ∈ visits,
    Digest.sha256Hex (Cache.keyBytes u.request.sql u.request.lifetime) =
      Digest.sha256Hex (Cache.keyBytes v.request.sql v.request.lifetime) →
    Cache.keyBytes u.request.sql u.request.lifetime =
      Cache.keyBytes v.request.sql v.request.lifetime

theorem key_eq_iff {visits : List Visit} (distinct : Distinct visits) (hu : u ∈ visits)
    (hv : v ∈ visits) : u.key = v.key ↔ u.same v := by
  constructor
  · intro same
    exact Cache.keyBytes_inj.mp (distinct u hu v hv (congrArg Cache.Key.digest same))
  · intro same
    exact Cache.Key.of_congr same.1 same.2

/-- Whatever the memory holds for a request is the outcome of the last one that was kept, with
the options of that one. -/
def Holds (w : World σ) (visits : List Visit) (past : List Answered) (m : Cache.Memory) : Prop :=
  ∀ v ∈ visits, ∀ entry, m.entries.lookup v.key = some entry → ∃ u o,
    lastKept past v = some u ∧ w.outcomeFor v u.request = .ok o ∧ entry.payload = o.payload

variable {visits : List Visit} {m : Cache.Memory}

theorem holds_empty (w : World σ) (visits : List Visit) : Holds w visits [] {} :=
  fun _ _ _ found => nomatch (found : none = some _)

theorem Holds.of_not_kept (holds : Holds w visits past m) (h : e.isKept = false) (u : Visit) :
    Holds w visits (past ++ [(u, e)]) m := by
  intro v hv entry found
  rw [lastKept_of_not_kept h]
  exact holds v hv entry found

theorem Holds.put (distinct : Distinct visits) (holds : Holds w visits past m) (hu : u ∈ visits)
    (kept : e.isKept = true) {o : Outcome} (ho : w.outcomeFor u u.request = .ok o)
    (now : Instant) (ttl : Span) :
    Holds w visits (past ++ [(u, e)]) (m.put now u.key o.payload ttl) := by
  intro v hv entry found
  rw [Cache.Memory.put, Cache.Memory.lookup_set] at found
  rw [lastKept_concat]
  by_cases same : u.same v
  · rw [if_pos ((key_eq_iff distinct hu hv).mpr same).symm] at found
    cases found
    refine ⟨u, o, if_pos ⟨kept, same⟩, ?_, rfl⟩
    rw [World.outcomeFor, ← same.1]
    exact ho
  · rw [if_neg fun key => same ((key_eq_iff distinct hu hv).mp key.symm)] at found
    rw [if_neg fun both => same both.2]
    exact holds v hv entry found

end Kept

/-! ### Requests in a row -/

section Row

variable {σ : Type} {w : World σ} {g : Gateway} {visits : List Visit}

/-- Of the requests behind others, the second is served what the first one was answered. -/
def ServesAfter (past record : List Answered) (u v : Visit) : Prop :=
  ∃ before e after, record = before ++ (v, e) :: after ∧ e.isServed = true ∧
    lastKept (past ++ before) v = some u

theorem not_servesAfter_nil {past : List Answered} {u v : Visit} : ¬ ServesAfter past [] u v := by
  intro serves
  obtain ⟨before, e, after, split, _⟩ := serves
  cases before <;> cases split

theorem servesAfter_cons {past record : List Answered} {u v v' : Visit} {e : Envelope} :
    ServesAfter past ((v, e) :: record) u v' ↔
      (e.isServed = true ∧ lastKept past v = some u ∧ v' = v) ∨
        ServesAfter (past ++ [(v, e)]) record u v' := by
  constructor
  · intro serves
    obtain ⟨before, e', after, split, served, last⟩ := serves
    cases before with
    | nil =>
      cases split
      rw [List.append_nil] at last
      exact .inl ⟨served, last, rfl⟩
    | cons x before =>
      cases split
      rw [List.append_cons] at last
      exact .inr ⟨before, e', after, rfl, served, last⟩
  · intro serves
    rcases serves with ⟨served, last, rfl⟩ | ⟨before, e', after, rfl, served, last⟩
    · exact ⟨[], e, record, rfl, served, by rwa [List.append_nil]⟩
    · exact ⟨(v, e) :: before, e', after, rfl, served, by rwa [List.append_cons]⟩

/-- The outcome that a request is served is what its own options ask for. -/
def Agrees (w : World σ) (u v : Visit) : Prop :=
  w.outcomeFor v u.request = w.outcomeFor v v.request

/-- One request is answered alike with a memory and without a store if and only if what it is
served, if it is served, is what its own options ask for. -/
theorem answer_plain_iff {past : List Answered} {m : Cache.Memory} {v : Visit}
    (regular : ∀ sql options o, w.outcome sql options = .ok o → o.Regular)
    (distinct : Distinct visits) (holds : Holds w visits past m) (hv : v ∈ visits) (a : σ) :
    ∃ a' m', (w.answer g v (a, .memory m)).2 = (a', .memory m') ∧
      (w.answer g v (a, .disabled)).2 = (a', .disabled) ∧
      Holds w visits (past ++ [(v, (w.answer g v (a, .memory m)).1)]) m' ∧
      ((w.answer g v (a, .memory m)).1.plain = (w.answer g v (a, .disabled)).1.plain ↔
        ∀ u, (w.answer g v (a, .memory m)).1.isServed = true → lastKept past v = some u →
          Agrees w u v) := by
  obtain ⟨a', ⟨e, kept, served, hm, hd⟩ | ⟨p, o, ttl, ho, hm, hd⟩ |
    ⟨p, entry, o, found, read, hm, hd⟩⟩ := answer_cases w g v a m
  · rw [hm, hd]
    refine ⟨a', m, rfl, rfl, holds.of_not_kept kept v, iff_of_true rfl fun _ h => ?_⟩
    rw [served] at h
    cases h
  · rw [hm, hd]
    have unserved : (g.success o p.verdict (some (.miss false))).isServed = false := rfl
    refine ⟨a', _, rfl, rfl, holds.put distinct hv rfl ho v.kept ttl,
      iff_of_true rfl fun _ h => ?_⟩
    rw [unserved] at h
    cases h
  · rw [hm, hd]
    refine ⟨a', m, rfl, rfl, holds.of_not_kept rfl v, ?_⟩
    obtain ⟨u, o', last, ho', hpayload⟩ := holds v hv entry found
    -- What was kept is read back as it was, so the outcome served is that of `u`.
    obtain rfl : o' = o := by
      rw [hpayload, Outcome.ofPayload?_payload (regular _ _ _ ho')] at read
      split at read
      · exact Option.some.inj read
      · cases read
    have told : g.success o' p.verdict (some (.ofHit entry.hit)) =
        settled g p (some (.ofHit entry.hit)) (.ok o') := rfl
    rw [told, settled_plain_inj, last]
    constructor
    · intro same u' _ hu'
      cases hu'
      exact ho'.trans same
    · intro agrees
      exact ho'.symm.trans (agrees u rfl rfl)

theorem answers_plain_iff {past : List Answered} {m : Cache.Memory}
    (regular : ∀ sql options o, w.outcome sql options = .ok o → o.Regular)
    (distinct : Distinct visits) (holds : Holds w visits past m) {rest : List Visit}
    (hrest : ∀ v ∈ rest, v ∈ visits) (a : σ) :
    (w.answers g rest (a, .memory m)).map Envelope.plain =
        (w.answers g rest (a, .disabled)).map Envelope.plain ↔
      ∀ u v, ServesAfter past (rest.zip (w.answers g rest (a, .memory m))) u v →
        Agrees w u v := by
  induction rest generalizing past m a with
  | nil => exact iff_of_true rfl fun _ _ serves => absurd serves not_servesAfter_nil
  | cons v rest ih =>
    obtain ⟨hv, hrest⟩ := List.forall_mem_cons.mp hrest
    obtain ⟨a', m', hm, hd, holds', first⟩ := answer_plain_iff (g := g) regular distinct holds hv a
    have later := ih holds' hrest a'
    rw [World.answers, World.answers, hm, hd, List.map_cons, List.map_cons, List.cons_eq_cons,
      first, later, List.zip_cons_cons]
    constructor
    · intro both u v' serves
      rcases servesAfter_cons.mp serves with ⟨served, last, rfl⟩ | serves
      · exact both.1 u served last
      · exact both.2 u v' serves
    · intro all
      exact ⟨fun u served last => all u v (servesAfter_cons.mpr (.inl ⟨served, last, rfl⟩)),
        fun u v' serves => all u v' (servesAfter_cons.mpr (.inr serves))⟩

/-- **When the cache is transparent**: requests are answered alike by a gateway that keeps its
results in memory and by one that keeps none, what is said about the cache apart, if and only
if whatever one request is served of another one is also what its own options ask for. -/
theorem cache_transparent_iff (w : World σ) (g : Gateway) (visits : List Visit) (a : σ)
    (regular : ∀ sql options o, w.outcome sql options = .ok o → o.Regular)
    (distinct : Distinct visits) :
    (w.answers g visits (a, .memory {})).map Envelope.plain =
        (w.answers g visits (a, .disabled)).map Envelope.plain ↔
      ∀ u v, Serves (visits.zip (w.answers g visits (a, .memory {}))) u v →
        w.outcomeFor v u.request = w.outcomeFor v v.request :=
  answers_plain_iff regular distinct (holds_empty w visits) (fun _ hv => hv) a

/-- Where a result is served, both requests are among those that were made. -/
theorem mem_of_serves {answers : List Envelope} {u v : Visit}
    (serves : Serves (visits.zip answers) u v) : u ∈ visits ∧ v ∈ visits := by
  obtain ⟨before, e, after, record, _, last⟩ := serves
  have made {x : Answered} (hx : x ∈ visits.zip answers) : x.1 ∈ visits := (List.of_mem_zip hx).1
  rw [record] at made
  obtain ⟨⟨_, e'⟩, found, rfl⟩ := Option.map_eq_some_iff.mp last
  have earlier := List.mem_reverse.mp (List.mem_of_find?_eq_some found)
  exact ⟨made (List.mem_append_left _ earlier),
    made (List.mem_append_right _ (List.mem_cons_self ..))⟩

end Row

/-- A database that answers every statement with the format that is asked for. -/
def formatWorld : World Unit where
  authorize _ _ a := (.granted, a)
  outcome _ options := .ok (.rows (.string options.format.name))

/-- A request for a read in a format, to be kept for a minute. -/
def formatVisit (format : OutputFormat) : Visit where
  request := { sql := "SELECT 1", format := format, lifetime := .ofSeconds 60 }
  account := ⟨"demo", none⟩
  asked := ⟨0, 0⟩
  kept := ⟨0, 0⟩

theorem formatWorld_regular (sql : String) (options : ExecutionOptions) (o : Outcome)
    (h : formatWorld.outcome sql options = .ok o) : o.Regular := by
  cases h
  exact ⟨trivial, .nil, trivial, nofun⟩

theorem formatVisits_distinct (f f' : OutputFormat) : Distinct [formatVisit f, formatVisit f'] := by
  have bytes {v : Visit} (hv : v ∈ [formatVisit f, formatVisit f']) :
      Cache.keyBytes v.request.sql v.request.lifetime =
        Cache.keyBytes "SELECT 1" (.ofSeconds 60) := by
    rcases List.mem_cons.mp hv with rfl | hv
    · rfl
    · rw [List.mem_singleton.mp hv]
      rfl
  intro u hu v hv _
  rw [bytes hu, bytes hv]

/-- The same request twice is answered alike with a memory and without a store. -/
theorem twice_transparent :
    (formatWorld.answers {} [formatVisit .csv, formatVisit .csv] ((), .memory {})).map
        Envelope.plain =
      (formatWorld.answers {} [formatVisit .csv, formatVisit .csv] ((), .disabled)).map
        Envelope.plain := by
  have only {x : Visit} (hx : x ∈ [formatVisit .csv, formatVisit .csv]) :
      x = formatVisit .csv := by
    rcases List.mem_cons.mp hx with rfl | hx
    · rfl
    · exact List.mem_singleton.mp hx
  refine (cache_transparent_iff formatWorld {} _ () formatWorld_regular
    (formatVisits_distinct .csv .csv)).mpr fun u v serves => ?_
  obtain ⟨hu, hv⟩ := mem_of_serves serves
  rw [only hu, only hv]

/-- A request in one format is served what was kept of the same statement in another. -/
theorem format_not_transparent :
    let visits := [formatVisit .geojson, formatVisit .csv]
    (∀ sql options o, formatWorld.outcome sql options = .ok o → o.Regular) ∧ Distinct visits ∧
      (formatWorld.answers {} visits ((), .memory {})).map Envelope.plain ≠
        (formatWorld.answers {} visits ((), .disabled)).map Envelope.plain := by
  refine ⟨formatWorld_regular, formatVisits_distinct .geojson .csv, fun same => ?_⟩
  have data := congrArg (List.map fun e : Envelope => e.data.bind Json.asString?) same
  revert data
  decide +kernel

end QueryGateway
