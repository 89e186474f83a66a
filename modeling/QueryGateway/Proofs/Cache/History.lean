import Mathlib.Data.Set.Card
import QueryGateway.Proofs.Cache.Store

/-! A memory as its history has it.

What a memory holds can be told from what was done with it before (`Memory.follows_used`): for
each key what was put last, if no purge has dropped it since. A purge drops what has expired,
and by then nobody is served it any more. So if the clock does not go back, a lookup finds what
was put last until that has expired, whether there have been purges or not
(`memory_follows_history`). -/
namespace QueryGateway.Cache

/-! ### Histories -/

/-- What a memory is used for. -/
inductive Purpose where
  | put (key : Key) (payload : List UInt8) (ttl : Span)
  | get (key : Key)
  | purge
  deriving DecidableEq, Repr

/-- A use of a memory, and when it is made. -/
structure Use where
  time : Instant
  purpose : Purpose
  deriving DecidableEq, Repr

/-- What comes of a use. -/
inductive Effect where
  | kept
  | found (e : Option Entry)
  | dropped (count : Nat)
  deriving DecidableEq, Repr

namespace Memory

/-- Uses a memory. -/
def use (m : Memory) (u : Use) : Memory × Effect :=
  match u.purpose with
  | .put key payload ttl => (m.put u.time key payload ttl, .kept)
  | .get key => (m, .found (m.get? u.time key))
  | .purge => (m.purge u.time, .dropped (m.expiredCount u.time))

/-- A memory after some uses. -/
def used (m : Memory) (uses : List Use) : Memory := uses.foldl (fun m u => (m.use u).1) m

/-- What comes of the uses of a memory, one after the other. -/
def effects (m : Memory) : List Use → List Effect
  | [] => []
  | u :: rest => (m.use u).2 :: (m.use u).1.effects rest

theorem used_concat (m : Memory) (uses : List Use) (u : Use) :
    m.used (uses ++ [u]) = ((m.used uses).use u).1 := List.foldl_concat ..

/-- What comes of a use is decided by the uses before it. -/
theorem effects_getElem? (m : Memory) (past : List Use) (u : Use) (later : List Use) :
    (m.effects (past ++ u :: later))[past.length]? = some ((m.used past).use u).2 := by
  induction past generalizing m with
  | nil => rfl
  | cons v past ih => exact ih _

end Memory

namespace Use

/-- The entry that a use makes for a key. -/
def entryFor (key : Key) (u : Use) : Option Entry :=
  match u.purpose with
  | .put other payload ttl => if other = key then some ⟨payload, u.time, ttl⟩ else none
  | _ => none

/-- A use leaves the entry of a key where it is: it puts none in its place, and if it is a purge
the entry has not expired. -/
def Spares (key : Key) (e : Entry) (u : Use) : Prop :=
  match u.purpose with
  | .put other _ _ => other ≠ key
  | .get _ => True
  | .purge => e.isExpired u.time = false

def isPurge (u : Use) : Bool := u.purpose = .purge

end Use

/-- The entry that was put last under a key. -/
def latest? (key : Key) (past : List Use) : Option Entry :=
  past.reverse.findSome? (Use.entryFor key)

/-- The entry that was put last under a key, if it was not dropped since. -/
def Held (key : Key) (past : List Use) (e : Entry) : Prop :=
  ∃ before kept since, past = before ++ kept :: since ∧ kept.entryFor key = some e ∧
    ∀ u ∈ since, u.Spares key e

/-- No use is made before an earlier one. -/
def InOrder (uses : List Use) : Prop :=
  uses.Pairwise fun u v => u.time.notAfter v.time = true

section Histories

variable {key : Key} {e : Entry} {past : List Use} {u : Use} {now : Instant}

theorem held_concat : Held key (past ++ [u]) e ↔
    u.entryFor key = some e ∨ (Held key past e ∧ u.Spares key e) := by
  constructor
  · intro held
    obtain ⟨before, kept, since, same, made, spared⟩ := held
    rcases eq_of_concat_eq_append same with ⟨rfl, rfl, rfl⟩ | ⟨since, rfl, rfl⟩
    · exact .inl made
    · obtain ⟨spared, last⟩ := List.forall_mem_append.mp spared
      exact .inr ⟨⟨before, kept, since, rfl, made, spared⟩, List.forall_mem_singleton.mp last⟩
  · intro made
    rcases made with made | ⟨⟨before, kept, since, rfl, made, spared⟩, last⟩
    · exact ⟨past, u, [], rfl, made, List.forall_mem_nil _⟩
    · refine ⟨before, kept, since ++ [u], by simp, made, List.forall_mem_append.mpr ⟨spared, ?_⟩⟩
      exact List.forall_mem_singleton.mpr last

/-- As long as an entry has not expired, only another one takes its place. -/
theorem Use.spares_iff (fresh : e.isExpired now = false) (earlier : u.time.notAfter now = true) :
    u.Spares key e ↔ u.entryFor key = none := by
  obtain ⟨time, purpose⟩ := u
  cases purpose with
  | put other payload ttl => simp [Spares, entryFor]
  | get other => simp [Spares, entryFor]
  | purge =>
    -- What has expired stays so, and at `now` it has not.
    have unexpired : e.isExpired time = false := by
      rw [Bool.eq_false_iff] at fresh ⊢
      intro expired
      exact fresh (Entry.isExpired_of_notAfter expired earlier)
    exact iff_of_true unexpired rfl

/-- What was put last is held at least until it has expired. -/
theorem held_iff_latest (fresh : e.isExpired now = false)
    (ordered : ∀ u ∈ past, u.time.notAfter now = true) :
    Held key past e ↔ latest? key past = some e := by
  have spares {before since : List Use} {kept u : Use} (same : past = before ++ kept :: since)
      (hu : u ∈ since) : u.Spares key e ↔ u.entryFor key = none := by
    refine Use.spares_iff fresh (ordered u ?_)
    rw [same]
    exact List.mem_append_right _ (List.mem_cons_of_mem _ hu)
  rw [latest?, findSome?_reverse_eq_some]
  constructor
  · intro held
    obtain ⟨before, kept, since, same, made, spared⟩ := held
    exact ⟨before, kept, since, same, made, fun u hu => (spares same hu).mp (spared u hu)⟩
  · intro last
    obtain ⟨before, kept, since, same, made, spared⟩ := last
    exact ⟨before, kept, since, same, made, fun u hu => (spares same hu).mpr (spared u hu)⟩

end Histories

/-! ### What is held -/

namespace Memory

variable {key : Key} {e : Entry} {m : Memory}

theorem OnePerKey.use (h : m.OnePerKey) (u : Use) : (m.use u).1.OnePerKey := by
  obtain ⟨time, purpose⟩ := u
  cases purpose with
  | put key payload ttl => exact h.put time key payload ttl
  | get key => exact h
  | purge => exact h.purge time

theorem lookup_use (h : m.OnePerKey) (u : Use) :
    (m.use u).1.entries.lookup key = some e ↔
      u.entryFor key = some e ∨ (m.entries.lookup key = some e ∧ u.Spares key e) := by
  obtain ⟨time, purpose⟩ := u
  cases purpose with
  | put other payload ttl =>
    show (set other ⟨payload, time, ttl⟩ m.entries).lookup key = some e ↔ _
    rw [lookup_set]
    by_cases same : other = key
    · simp [Use.entryFor, Use.Spares, same]
    · simp [Use.entryFor, Use.Spares, same, Ne.symm same]
  | get other => simp [use, Use.entryFor, Use.Spares]
  | purge =>
    show (m.entries.filter fun x => !x.2.isExpired time).lookup key = some e ↔ _
    rw [lookup_filter h (fun e => !e.isExpired time), Option.filter_eq_some_iff]
    simp [Use.entryFor, Use.Spares]

/-- A memory has one entry for a key, and these are the entries that are held. -/
structure Follows (past : List Use) (m : Memory) : Prop where
  once : m.OnePerKey
  holds : ∀ key e, m.entries.lookup key = some e ↔ Held key past e

theorem follows_empty : Follows [] {} where
  once := onePerKey_empty
  holds key e := by simp [Held]

/-- A use keeps a memory up to its history. -/
theorem Follows.use {past : List Use} (h : m.Follows past) (u : Use) :
    (m.use u).1.Follows (past ++ [u]) where
  once := h.once.use u
  holds key e := by rw [lookup_use h.once, h.holds, held_concat]

theorem follows_used (past : List Use) : (Memory.used {} past).Follows past := by
  induction past using List.reverseRec with
  | nil => exact follows_empty
  | append_singleton past u ih =>
    rw [used_concat]
    exact ih.use u

section Answers

variable {past : List Use} {now : Instant}

theorem Follows.get?_eq (h : m.Follows past)
    (ordered : ∀ u ∈ past, u.time.notAfter now = true) (key : Key) :
    m.get? now key = (latest? key past).filter fun e => !e.isExpired now := by
  apply Option.ext
  intro e
  rw [get?, Option.filter_eq_some_iff, Option.filter_eq_some_iff, Bool.not_eq_true', h.holds]
  constructor
  · intro found
    exact ⟨(held_iff_latest found.2 ordered).mp found.1, found.2⟩
  · intro found
    exact ⟨(held_iff_latest found.2 ordered).mpr found.1, found.2⟩

theorem mem_iff_lookup (h : m.OnePerKey) :
    (key, e) ∈ m.entries ↔ m.entries.lookup key = some e := by
  rw [List.lookup_eq_some_iff]
  constructor
  · intro listed
    obtain ⟨before, after, same⟩ := List.append_of_mem listed
    refine ⟨before, after, same, fun x hx => bne_iff_ne.mpr fun equal => ?_⟩
    rw [OnePerKey, same, List.map_append, List.nodup_append] at h
    exact h.2.2 x.1 (List.mem_map_of_mem hx) key (by simp) equal.symm
  · intro found
    obtain ⟨before, after, same, _⟩ := found
    rw [same]
    exact List.mem_append_right _ (List.mem_cons_self ..)

theorem expiredCount_eq (m : Memory) (now : Instant) :
    m.expiredCount now = (m.entries.filter fun x => x.2.isExpired now).length := by
  have whole := List.length_eq_length_filter_add (l := m.entries) fun x => x.2.isExpired now
  show m.entries.length - (m.entries.filter fun x => !x.2.isExpired now).length = _
  omega

/-- A purge drops what is held and has expired. -/
theorem Follows.expiredCount_eq (h : m.Follows past) (now : Instant) :
    m.expiredCount now = Set.ncard {key | ∃ e, Held key past e ∧ e.isExpired now = true} := by
  have same : {key | ∃ e, Held key past e ∧ e.isExpired now = true} =
      (((m.entries.filter fun x => x.2.isExpired now).map Prod.fst).toFinset : Set Key) := by
    ext key
    simp [← h.holds, ← mem_iff_lookup h.once]
  rw [Memory.expiredCount_eq, same, Set.ncard_coe_finset, List.toFinset_card_of_nodup,
    List.length_map]
  exact h.once.sublist (List.filter_sublist.map _)

theorem not_expired_of_mem_purge {x : Key × Entry} (h : x ∈ (m.purge now).entries) :
    x.2.isExpired now = false := by
  simpa using (List.mem_filter.mp h).2

theorem expiredCount_purge (m : Memory) (now : Instant) : (m.purge now).expiredCount now = 0 := by
  rw [Memory.expiredCount_eq, List.length_eq_zero_iff, List.filter_eq_nil_iff]
  intro x hx
  rw [not_expired_of_mem_purge hx]
  decide

end Answers

end Memory

/-! ### Purges -/

/-- What the lookups among some uses find. -/
def findings (effects : List Effect) : List (Option Entry) :=
  effects.filterMap fun | .found e => some e | _ => none

/-- What is found does not tell whether there have been purges. -/
theorem Memory.findings_eq {m m' : Memory} (h : m.OnePerKey) {uses : List Use}
    (ordered : InOrder uses) (alike : ∀ u ∈ uses, ∀ key, m.get? u.time key = m'.get? u.time key) :
    findings (m.effects uses) = findings (m'.effects (uses.filter (!·.isPurge))) := by
  -- The memories may differ in what they hold; the same is found in both at all times to come.
  induction uses generalizing m m' with
  | nil => rfl
  | cons u rest ih =>
    obtain ⟨time, purpose⟩ := u
    obtain ⟨later, rest_ordered⟩ := List.pairwise_cons.mp ordered
    obtain ⟨now, rest_alike⟩ := List.forall_mem_cons.mp alike
    cases purpose with
    | put key payload ttl =>
      refine ih (h.put time key payload ttl) rest_ordered fun v hv other => ?_
      show (m.put ..).get? v.time other = (m'.put ..).get? v.time other
      rw [get?_put, get?_put, rest_alike v hv]
    | get key =>
      show m.get? time key :: _ = m'.get? time key :: _
      exact congrArg₂ List.cons (now key) (ih h rest_ordered rest_alike)
    | purge =>
      refine ih (h.purge time) rest_ordered fun v hv key => ?_
      exact (get?_purge h (later v hv) key).trans (rest_alike v hv key)

/-! ### The history of a memory -/

/-- **A memory follows its history.** From an empty memory, with a clock that does not go back:
a lookup finds what was put last under its key, unless that has expired, and purges make no
difference to what is found. A purge tells for how many keys what was put last is held still and
has expired; nothing that has expired is held after it, and another one at the same time drops
nothing. -/
theorem memory_follows_history (uses : List Use) (ordered : InOrder uses) :
    (∀ past now key later, uses = past ++ ⟨now, .get key⟩ :: later →
      (Memory.effects {} uses)[past.length]? =
        some (.found ((latest? key past).filter fun e => !e.isExpired now))) ∧
    findings (Memory.effects {} uses) =
      findings (Memory.effects {} (uses.filter (!·.isPurge))) ∧
    ∀ past now later, uses = past ++ ⟨now, .purge⟩ :: later →
      (Memory.effects {} uses)[past.length]? = some (.dropped
        (Set.ncard {key | ∃ e, Held key past e ∧ e.isExpired now = true})) ∧
      (∀ x ∈ (Memory.used {} (past ++ [⟨now, .purge⟩])).entries, x.2.isExpired now = false) ∧
      ∀ rest, later = ⟨now, .purge⟩ :: rest →
        (Memory.effects {} uses)[past.length + 1]? = some (.dropped 0) := by
  refine ⟨?_, ?_, ?_⟩
  · intro past now key later same
    have earlier : ∀ u ∈ past, u.time.notAfter now = true := by
      rw [InOrder, same, List.pairwise_append] at ordered
      exact fun u hu => ordered.2.2 u hu _ (List.mem_cons_self ..)
    rw [same, Memory.effects_getElem?]
    exact congrArg (some ∘ Effect.found) ((Memory.follows_used past).get?_eq earlier key)
  · exact Memory.findings_eq Memory.onePerKey_empty ordered fun _ _ _ => rfl
  · intro past now later same
    refine ⟨?_, ?_, ?_⟩
    · rw [same, Memory.effects_getElem?]
      exact congrArg (some ∘ Effect.dropped) ((Memory.follows_used past).expiredCount_eq now)
    · rw [Memory.used_concat]
      intro x hx
      exact Memory.not_expired_of_mem_purge hx
    · intro rest again
      have twice : uses = (past ++ [⟨now, .purge⟩]) ++ ⟨now, .purge⟩ :: rest := by
        simp [same, again]
      have second := Memory.effects_getElem? {} (past ++ [⟨now, .purge⟩]) ⟨now, .purge⟩ rest
      rw [← twice, List.length_append, Memory.used_concat] at second
      exact second.trans (congrArg (some ∘ Effect.dropped) (Memory.expiredCount_purge _ now))

/-- A result is kept for five seconds, which a purge finds to be over, and another one later. -/
def shortLife : List Use :=
  [⟨⟨0, 0⟩, .put ⟨"short"⟩ [1] (.ofSeconds 5)⟩, ⟨⟨1, 0⟩, .put ⟨"endless"⟩ [2] ⟨0⟩⟩,
    ⟨⟨4, 0⟩, .get ⟨"short"⟩⟩, ⟨⟨5, 0⟩, .purge⟩, ⟨⟨5, 0⟩, .get ⟨"short"⟩⟩,
    ⟨⟨6, 0⟩, .put ⟨"short"⟩ [3] (.ofSeconds 60)⟩, ⟨⟨7, 0⟩, .get ⟨"short"⟩⟩]

theorem shortLife_follows : InOrder shortLife ∧
    (Memory.effects {} shortLife)[2]? = some (.found (some ⟨[1], ⟨0, 0⟩, .ofSeconds 5⟩)) ∧
    (Memory.effects {} shortLife)[4]? = some (.found none) ∧
    (Memory.effects {} shortLife)[6]? = some (.found (some ⟨[3], ⟨6, 0⟩, .ofSeconds 60⟩)) := by
  have ordered : InOrder shortLife := by
    unfold InOrder
    decide
  obtain ⟨lookups, _⟩ := memory_follows_history shortLife ordered
  refine ⟨ordered, ?_, ?_, ?_⟩
  · exact (lookups (shortLife.take 2) _ _ _ rfl).trans (by decide)
  · exact (lookups (shortLife.take 4) _ _ _ rfl).trans (by decide)
  · exact (lookups (shortLife.take 6) _ _ _ rfl).trans (by decide)

end QueryGateway.Cache
