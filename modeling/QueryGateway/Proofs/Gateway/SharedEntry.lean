import Mathlib.Data.List.Induction
import QueryGateway.Proofs.Gateway.Concurrency

/-! Which requests share an entry of the memory.

All that a request asks of the store it asks under its own key (`storeKey_of_perform`), and two
keys are the same exactly for the same statement up to blanks and lifetimes of as many whole
seconds, as long as no two digests are the same by accident. So in any scene a lookup finds what
was kept last by such a request, whoever made it and whatever others kept in between
(`entry_shared_iff_same_read`). -/
namespace QueryGateway

open Dialogue

namespace Request

/-- The requests are for the same statement, up to the blanks around it, and for lifetimes of as
many whole seconds. -/
def SameRead (r r' : Request) : Prop :=
  Text.trim r.sql = Text.trim r'.sql ∧ r.lifetime.seconds = r'.lifetime.seconds

instance (r r' : Request) : Decidable (r.SameRead r') := inferInstanceAs (Decidable (_ ∧ _))

/-- The bytes that the key of a request is the digest of. -/
def keyBytes (r : Request) : List UInt8 := Cache.keyBytes r.sql r.lifetime

end Request

/-- Among requests, the digests of different bytes are different. -/
def DigestsApart (requests : List Request) : Prop :=
  ∀ r ∈ requests, ∀ r' ∈ requests,
    Digest.sha256 r.keyBytes = Digest.sha256 r'.keyBytes → r.keyBytes = r'.keyBytes

theorem DigestsApart.key_eq_iff {requests : List Request} (apart : DigestsApart requests)
    {r r' : Request} (hr : r ∈ requests) (hr' : r' ∈ requests) :
    r.key = r'.key ↔ r.SameRead r' :=
  Cache.Key.of_inj (apart r hr r' hr')

/-! ### The keys of a request -/

/-- The key under which a call turns to the store. -/
def Call.storeKey? : Call → Option Cache.Key
  | .lookUp key | .keep key _ _ => some key
  | _ => none

section Keys

variable {g : Gateway} {r : Request} {account : AccountContext} {events : List Event} {e : Envelope}

theorem Call.isStore_of_storeKey? {c : Call} {key : Cache.Key} (h : c.storeKey? = some key) :
    c.isStore = true := by
  cases c <;> first | rfl | cases h

theorem Course.storeKey {p : Prepared} (h : Course g r p events e) (sql : p.sql = r.sql) :
    ∀ event ∈ events, ∀ key, event.1.storeKey? = some key → key = r.key := by
  have own : Cache.Key.of p.sql r.lifetime = r.key := by rw [sql, Request.key]
  cases h with
  | change | read => simp [Call.storeKey?]
  | served | failed | kept => simp [Call.storeKey?, own]

theorem storeKey?_of_prepare {policy : Policy} {result : Except Refusal Prepared}
    (h : (prepare policy r account).Yields events result) {event : Event} (he : event ∈ events)
    (key : Cache.Key) : event.1.storeKey? ≠ some key := by
  intro hkey
  have silent := not_isStore_of_prepare h event he
  rw [Call.isStore_of_storeKey? hkey] at silent
  cases silent

theorem storeKey_of_single (h : (g.runSingle r account).Yields events e) :
    ∀ event ∈ events, ∀ key, event.1.storeKey? = some key → key = r.key := by
  intro event he key hkey
  rcases runSingle_cases h with ⟨_, refused, _⟩ | ⟨p, asked, rest, rfl, passed, course⟩
  · exact absurd hkey (storeKey?_of_prepare refused he key)
  · rcases List.mem_append.mp he with he | he
    · exact absurd hkey (storeKey?_of_prepare passed he key)
    · exact course.storeKey (inspect_of_prepare passed).1 event he key hkey

/-- A job that turns to the store is a request for one statement, and does so under its key. -/
theorem storeKey_of_perform {job : Job} {answer : StreamAnswer}
    (h : (g.perform job).Yields events answer) {event : Event} (he : event ∈ events)
    {key : Cache.Key} (hkey : event.1.storeKey? = some key) :
    ∃ r account, job = .single r account ∧ key = r.key := by
  have stores := Call.isStore_of_storeKey? hkey
  cases job with
  | single r account =>
    obtain ⟨e, hsingle, _⟩ := yields_map.mp h
    exact ⟨r, account, rfl, storeKey_of_single hsingle event he key hkey⟩
  | batch text template account =>
    obtain ⟨e, hbatch, _⟩ := yields_map.mp h
    rw [only_runBatch g text template account events e hbatch event he] at stores
    cases stores
  | stream r account =>
    rw [not_isStore_of_openStream h event he] at stores
    cases stores

end Keys

/-! ### Entries in common -/

/-- The entry that a moment makes for a request and all that are the same read. -/
def Scene.sharedFor (s : Scene) (r : Request) (m : Moment) : Option Cache.Entry :=
  match m.event.1, s.job? m.who with
  | .keep _ payload ttl, some (.single r' _) =>
    if r'.SameRead r then some ⟨payload, m.time, ttl⟩ else none
  | _, _ => none

/-- The entry that the last of some moments made for a request and all that are the same read. -/
def Scene.lastShared (s : Scene) (log : List Moment) (r : Request) : Option Cache.Entry :=
  log.reverse.findSome? (s.sharedFor r)

section Sharing

variable {g : Gateway} {s : Scene} {r : Request} {m : Moment}

/-- Whoever turns to the store does so for a request, under its key. -/
theorem Sound.storeKey (h : Sound g s) (hm : m ∈ s.log) {key : Cache.Key}
    (hkey : m.event.1.storeKey? = some key) :
    ∃ r account, s.job? m.who = some (.single r account) ∧ key = r.key := by
  obtain ⟨job, rest, found⟩ := h.exists_thread hm
  have whole := h.onward m.who job rest found _ _ (yields_transcript agreeable rest ())
  have mine : m.event ∈ s.events m.who :=
    List.mem_map_of_mem (List.mem_filter.mpr ⟨hm, by simp⟩)
  obtain ⟨r, account, rfl, hkey⟩ :=
    storeKey_of_perform whole (List.mem_append_left _ mine) hkey
  exact ⟨r, account, by rw [Scene.job?, found]; rfl, hkey⟩

/-- Under the key of a request an entry is made by what is the same read, and by nothing else. -/
theorem Sound.entryFor_key (h : Sound g s) (apart : DigestsApart s.requests)
    (mine : r ∈ s.requests) (hm : m ∈ s.log) : m.entryFor r.key = s.sharedFor r m := by
  rw [Moment.entryFor, Scene.sharedFor]
  cases hcall : m.event.1 with
  | keep key payload ttl =>
    have hkey : m.event.1.storeKey? = some key := by rw [hcall]; rfl
    obtain ⟨r', account, job, rfl⟩ := h.storeKey hm hkey
    have same : r.key = r'.key ↔ r'.SameRead r :=
      eq_comm.trans (apart.key_eq_iff (mem_requests_of_job? job) mine)
    rw [job, Call.entryFor]
    dsimp only
    by_cases shared : r'.SameRead r
    · rw [if_pos shared, if_pos (same.mpr shared)]
    · rw [if_neg shared, if_neg fun key => shared (same.mp key)]
  | _ => rfl

theorem Sound.lastEntry_key (h : Sound g s) (apart : DigestsApart s.requests)
    (mine : r ∈ s.requests) {log : List Moment} (part : ∀ m ∈ log, m ∈ s.log) :
    lastEntry log r.key = s.lastShared log r := by
  induction log using List.reverseRec with
  | nil => rfl
  | append_singleton log m ih =>
    obtain ⟨others, last⟩ := List.forall_mem_append.mp part
    rw [lastEntry_concat, h.entryFor_key apart mine (List.forall_mem_singleton.mp last), ih others,
      Scene.lastShared, Scene.lastShared, Cache.findSome?_reverse_concat]

end Sharing

/-- **Reads share an entry exactly if they are for the same statement, up to the blanks around
it, and for as many whole seconds.** The bytes that two keys are digests of are the same exactly
then, whatever the statements hold; and so are the keys, unless two digests are the same by
accident. In every scene that can be reached, what a lookup finds for a request is what the last
of these reads before it has kept, unless that has expired. -/
theorem entry_shared_iff_same_read :
    (∀ (s t : String) (l k : Span), Cache.keyBytes s l = Cache.keyBytes t k ↔
      Text.trim s = Text.trim t ∧ l.seconds = k.seconds) ∧
    (∀ (s t : String) (l k : Span),
      (Digest.sha256 (Cache.keyBytes s l) = Digest.sha256 (Cache.keyBytes t k) →
        Cache.keyBytes s l = Cache.keyBytes t k) →
      (Cache.Key.of s l = Cache.Key.of t k ↔
        Text.trim s = Text.trim t ∧ l.seconds = k.seconds)) ∧
    ∀ (g : Gateway) (start : Instant) (moves : List Move),
      let scene := Scene.play g { now := start } moves
      Instant.inCalendar start.second = true → DigestsApart scene.requests →
      ∀ (i : Nat) (m : Moment) key found, scene.log[i]? = some m → m.event = ⟨.lookUp key, found⟩ →
        ∃ r account, scene.job? m.who = some (.single r account) ∧
          found = .ok (Cache.unexpired m.time (scene.lastShared (scene.log.take i) r)) := by
  refine ⟨fun _ _ _ _ => Cache.keyBytes_inj, fun _ _ _ _ apart => Cache.Key.of_inj apart, ?_⟩
  intro g start moves scene calendar apart i m key found here looks
  have sound : Sound g scene := (sound_start calendar).play moves
  obtain ⟨present, rfl⟩ := List.getElem?_eq_some_iff.mp here
  have split : scene.log = scene.log.take i ++ scene.log[i] :: scene.log.drop (i + 1) := by
    rw [List.getElem_cons_drop, List.take_append_drop]
  obtain ⟨r, account, job, rfl⟩ :=
    sound.storeKey (List.getElem_mem present) (congrArg (fun e => e.1.storeKey?) looks)
  refine ⟨r, account, job, ?_⟩
  rw [sound.found _ _ _ split _ _ looks,
    sound.lastEntry_key apart (mem_requests_of_job? job) fun _ => List.mem_of_mem_take]

/-! ### A minute's read, blanks around it, and a longer text -/

/-- A read to be kept for a minute and a half second, with blanks around it. -/
def looseRead : Request := { sql := " SELECT 1 AS a\n", lifetime := ⟨60500000000⟩ }

/-- The same read without blanks, for a minute. -/
def tightRead : Request := { sql := "SELECT 1 AS a", lifetime := .ofSeconds 60 }

/-- A read whose text ends as the material of the other's key does. -/
def trailingRead : Request := { sql := "SELECT 1 AS a_60", lifetime := .ofSeconds 60 }

/-- One read is run and kept; 59 seconds later the two others are looked up. -/
def threeReads : List Move :=
  let enter (r : Request) : Move := .enter (.single r ⟨"demo", none⟩)
  let turn (who : Nat) : Move := .turn who fun c => (agreeable c ()).1
  [enter tightRead, enter looseRead, enter trailingRead, turn 0, turn 0, turn 0, .tick ⟨59, 0⟩,
    turn 1, turn 2]

/-- The read with blanks around it finds what was kept. The longer text has a key of its own and
finds nothing. -/
theorem threeReads_share :
    let scene := Scene.play hourGateway { now := ⟨0, 0⟩ } threeReads
    DigestsApart scene.requests ∧
    scene.log[3]?.map Moment.event =
      some ⟨.lookUp looseRead.key, .ok (some ⟨Outcome.payload {}, ⟨0, 0⟩, .ofSeconds 60⟩)⟩ ∧
    trailingRead.key ≠ tightRead.key ∧
    scene.log[4]?.map Moment.event = some ⟨.lookUp trailingRead.key, .ok none⟩ := by
  intro scene
  have made : scene.requests = [tightRead, looseRead, trailingRead] := by decide +kernel
  have apart : DigestsApart [tightRead, looseRead, trailingRead] := by
    unfold DigestsApart
    decide +kernel
  have asks (who : Nat) (r : Request) (h : [tightRead, looseRead, trailingRead][who]? = some r) :
      scene.job? who = some (.single r ⟨"demo", none⟩) := by
    have jobs : scene.threads.map Thread.job = [tightRead, looseRead, trailingRead].map
        fun r => .single r ⟨"demo", none⟩ :=
      Scene.jobs_play hourGateway { now := ⟨0, 0⟩ } threeReads
    rw [Scene.job?, ← List.getElem?_map, jobs, List.getElem?_map, h]
    rfl
  obtain ⟨_, keys, shared⟩ := entry_shared_iff_same_read
  have lookUp (i who : Nat) (r : Request)
      (job : scene.job? who = some (.single r ⟨"demo", none⟩))
      (looks : (scene.log[i]?.map fun m => (m.who, m.time, m.event.1)) =
        some (who, ⟨59, 0⟩, .lookUp r.key)) :
      scene.log[i]?.map Moment.event = some ⟨.lookUp r.key,
        .ok (Cache.unexpired ⟨59, 0⟩ (scene.lastShared (scene.log.take i) r))⟩ := by
    obtain ⟨⟨who', time, call, found⟩, here, same⟩ := Option.map_eq_some_iff.mp looks
    cases same
    obtain ⟨r', account, job', answered⟩ :=
      shared hourGateway ⟨0, 0⟩ threeReads (by decide +kernel) (made ▸ apart) i _ _ _ here rfl
    rw [job] at job'
    cases job'
    rw [here, answered]
    rfl
  refine ⟨made ▸ apart, ?_, ?_, ?_⟩
  · have kept : Cache.unexpired ⟨59, 0⟩ (scene.lastShared (scene.log.take 3) looseRead) =
        some ⟨Outcome.payload {}, ⟨0, 0⟩, .ofSeconds 60⟩ := by
      decide +kernel
    rw [lookUp 3 1 looseRead (asks 1 looseRead rfl) (by decide +kernel), kept]
  · intro same
    have alike := (keys _ _ _ _ (apart trailingRead (by simp) tightRead (by simp))).mp same
    exact absurd alike.1 (by decide +kernel)
  · have nothing : Cache.unexpired ⟨59, 0⟩ (scene.lastShared (scene.log.take 4) trailingRead) =
        none := by
      decide +kernel
    rw [lookUp 4 2 trailingRead (asks 2 trailingRead rfl) (by decide +kernel), nothing]

end QueryGateway
