import QueryGateway.Proofs.Cache.History

/-! How old a result may be that is served.

Outside leap seconds, whether an entry has expired is a matter of adding and comparing
nanoseconds, however long its time to live and wherever the calendar ends
(`Entry.expiresExactly`). Leap seconds have no numbers of their own, so no count of nanoseconds
tells the expiry of what is made or looked at in one (`expiry_inexact_in_leap_seconds`): a time to
live does not count them, and in one the clock stands still.

From this follows how old a hit can be (`expiry_exact_and_hits_young`). -/
namespace QueryGateway

namespace Instant

/-! ### Instants as numbers -/

/-- An instant that can be told: it is in the calendar, and if it lies in a leap second, that is
the last one of a minute. -/
structure Told (t : Instant) : Prop where
  calendar : inCalendar t.second = true
  fraction : t.fraction < 2 * Span.perSecond
  minute : t.isLeap = true → t.second % 60 = 59

instance (t : Instant) : Decidable t.Told :=
  decidable_of_iff (inCalendar t.second = true ∧ t.fraction < 2 * Span.perSecond ∧
      (t.isLeap = true → t.second % 60 = 59))
    ⟨fun h => ⟨h.1, h.2.1, h.2.2⟩, fun h => ⟨h.calendar, h.fraction, h.minute⟩⟩

/-- The nanoseconds from the start of 1970. Those of a leap second are counted twice: they are
those of the second behind it too. -/
def nanos (t : Instant) : Int := t.second * Span.perSecond + t.fraction

/-- The nanoseconds that a clock shows which stands still in leap seconds. -/
def shown (t : Instant) : Int :=
  t.second * Span.perSecond + (min t.fraction (Span.perSecond - 1) : Nat)

variable {t u : Instant} {s : Span}

theorem perSecond_eq : Span.perSecond = 1000000000 := rfl

theorem isLeap_eq_false_iff : t.isLeap = false ↔ t.fraction < Span.perSecond := by
  simp [isLeap]

theorem isLeap_iff : t.isLeap = true ↔ Span.perSecond ≤ t.fraction := by
  simp [isLeap]

theorem shown_eq_nanos (h : t.isLeap = false) : t.shown = t.nanos := by
  rw [isLeap_eq_false_iff, perSecond_eq] at h
  simp only [shown, nanos, perSecond_eq]
  omega

/-- Outside leap seconds the order of instants is that of their numbers. -/
theorem notAfter_iff_shown (h : t.fraction < Span.perSecond) :
    t.notAfter u = true ↔ t.nanos ≤ u.shown := by
  rw [notAfter_iff]
  rw [perSecond_eq] at h
  simp only [shown, nanos, perSecond_eq]
  omega

theorem nanos_advance (t : Instant) (s : Span) : (t.advance s).nanos = t.nanos + s.nanos := by
  simp only [advance, nanos, perSecond_eq]
  omega

theorem fraction_advance (t : Instant) (s : Span) : (t.advance s).fraction < Span.perSecond :=
  Nat.mod_lt _ (by decide)

theorem after_of_ordinary (h : t.isLeap = false) : t.after s = t.advance s := by
  rw [after, h]
  rfl

/-- A short span ends in the leap second that it starts in. -/
theorem after_within_leap (h : t.isLeap = true)
    (short : t.fraction + s.nanos < 2 * Span.perSecond) :
    t.after s = ⟨t.second, t.fraction + s.nanos⟩ := by
  rw [after, h, if_neg (by decide), if_pos short]

/-- A longer one does not count it. -/
theorem after_out_of_leap (h : t.isLeap = true)
    (long : 2 * Span.perSecond ≤ t.fraction + s.nanos) :
    t.after s = advance ⟨t.second, t.fraction - Span.perSecond⟩ s := by
  rw [after, h, if_neg (by decide), if_neg (Nat.not_lt.mpr long)]

end Instant

namespace Cache

/-! ### Expiry -/

variable {e : Entry} {now : Instant}

theorem Entry.isExpired_of_isZero (endless : e.ttl.isZero = true) : e.isExpired now = false := by
  rw [isExpired, expiresAt?, if_pos endless]

/-- When an entry has expired, in nanoseconds. -/
structure ExpiresExactly (e : Entry) (now : Instant) : Prop where
  /-- Outside leap seconds. -/
  ordinary : e.createdAt.isLeap = false → now.isLeap = false →
    (e.isExpired now = true ↔
      e.ttl.isZero = false ∧ e.createdAt.nanos + e.ttl.nanos ≤ now.nanos)
  /-- What is made outside of them is looked at by a clock that stands still in them. -/
  made : e.createdAt.isLeap = false →
    (e.isExpired now = true ↔
      e.ttl.isZero = false ∧ e.createdAt.nanos + e.ttl.nanos ≤ now.shown)
  /-- What ends in the leap second that it was made in. -/
  within : e.createdAt.isLeap = true → e.createdAt.fraction + e.ttl.nanos < 2 * Span.perSecond →
    (e.isExpired now = true ↔
      e.ttl.isZero = false ∧ (e.createdAt.second < now.second ∨
        e.createdAt.second = now.second ∧ e.createdAt.nanos + e.ttl.nanos ≤ now.nanos))
  /-- What ends later. -/
  beyond : e.createdAt.isLeap = true → 2 * Span.perSecond ≤ e.createdAt.fraction + e.ttl.nanos →
    (e.isExpired now = true ↔
      e.ttl.isZero = false ∧ e.createdAt.nanos + e.ttl.nanos - Span.perSecond ≤ now.shown)

theorem Entry.isExpired_iff_after (created : e.createdAt.Told) (told : now.Told) :
    e.isExpired now = true ↔
      e.ttl.isZero = false ∧ (e.createdAt.after e.ttl).notAfter now = true := by
  cases ttl : e.ttl.isZero with
  | true => simp [Entry.isExpired_of_isZero ttl]
  | false => simp [Entry.isExpired_eq ttl created.calendar told.calendar]

theorem Entry.isExpired_iff_of_ordinary (created : e.createdAt.Told) (told : now.Told)
    (plain : e.createdAt.isLeap = false) :
    e.isExpired now = true ↔
      e.ttl.isZero = false ∧ e.createdAt.nanos + e.ttl.nanos ≤ now.shown := by
  rw [Entry.isExpired_iff_after created told, Instant.after_of_ordinary plain,
    Instant.notAfter_iff_shown (Instant.fraction_advance ..), Instant.nanos_advance]

/-- **Expiry is exact**, whatever the times and the time to live are. -/
theorem Entry.expiresExactly (created : e.createdAt.Told) (told : now.Told) :
    ExpiresExactly e now where
  ordinary plain plain' := by
    rw [Entry.isExpired_iff_of_ordinary created told plain, Instant.shown_eq_nanos plain']
  made plain := Entry.isExpired_iff_of_ordinary created told plain
  within leap short := by
    rw [Entry.isExpired_iff_after created told, Instant.after_within_leap leap short,
      Instant.notAfter_iff]
    refine and_congr_right fun _ => or_congr_right (and_congr_right fun same => ?_)
    have same : e.createdAt.second = now.second := same
    simp only [Instant.nanos, same]
    omega
  beyond leap long := by
    have start : Instant.nanos ⟨e.createdAt.second, e.createdAt.fraction - Span.perSecond⟩ =
        e.createdAt.nanos - Span.perSecond := by
      have far := Instant.isLeap_iff.mp leap
      simp only [Instant.nanos]
      omega
    rw [Entry.isExpired_iff_after created told, Instant.after_out_of_leap leap long,
      Instant.notAfter_iff_shown (Instant.fraction_advance ..), Instant.nanos_advance, start]
    refine and_congr_right fun _ => ?_
    omega

/-- Expiry is addition and comparison of the numbers that instants have. -/
def ExactIn (value : Instant → Int) : Prop :=
  ∀ (e : Entry) (now : Instant), e.createdAt.Told → now.Told →
    (e.isExpired now = true ↔ e.ttl.isZero = false ∧ value e.createdAt + e.ttl.nanos ≤ value now)

/-- What is made half a second into a leap second, to live for four tenths of a second, has
expired a tenth of a second after it, though by the nanoseconds it has not. No other numbers
for the instants do better: a leap second has room for its nanoseconds when something is made
in it, and for none when it is looked at in it. -/
theorem expiry_inexact_in_leap_seconds :
    (Entry.isExpired ⟨[], ⟨59, 1500000000⟩, ⟨400000000⟩⟩ ⟨60, 100000000⟩ = true ∧
      ¬ Instant.nanos ⟨59, 1500000000⟩ + 400000000 ≤ Instant.nanos ⟨60, 100000000⟩) ∧
    ¬ ∃ value, ExactIn value := by
  refine ⟨by decide +kernel, ?_⟩
  intro exact
  obtain ⟨value, exact⟩ := exact
  have start : Instant.Told ⟨0, 0⟩ := by decide +kernel
  have leap : Instant.Told ⟨59, 1000000000⟩ := by decide +kernel
  have next : Instant.Told ⟨60, 0⟩ := by decide +kernel
  have before := (exact ⟨[], ⟨0, 0⟩, ⟨59999999999⟩⟩ _ start leap).mp (by decide +kernel)
  have behind := (exact ⟨[], ⟨59, 1000000000⟩, ⟨2⟩⟩ _ leap next).mp (by decide +kernel)
  have minute : ¬ value ⟨0, 0⟩ + 60000000001 ≤ value ⟨60, 0⟩ := by
    intro passed
    have expired := (exact ⟨[], ⟨0, 0⟩, ⟨60000000001⟩⟩ _ start next).mpr ⟨by decide, passed⟩
    exact absurd expired (by decide +kernel)
  have before := before.2
  have behind := behind.2
  dsimp only at before behind
  omega

/-! ### A cache in front of a memory -/

/-- What a cache is asked for. -/
inductive Demand where
  | lookUp (key : Key)
  | keep (key : Key) (payload : List UInt8) (lifetime : Span)
  | purge
  deriving DecidableEq, Repr

/-- A demand, and when it is made. -/
structure Asked where
  time : Instant
  demand : Demand
  deriving DecidableEq, Repr

namespace Memory

/-- A cache meets a demand with its memory. -/
def meet (longest : Span) (m : Memory) (a : Asked) : Memory × Option Hit :=
  match a.demand with
  | .lookUp key => (m, hitOf (.ok (m.get? a.time key)))
  | .keep key payload lifetime =>
    match ttlFor? longest lifetime with
    | some ttl => (m.put a.time key payload ttl, none)
    | none => (m, none)
  | .purge => (m.purge a.time, none)

/-- The memory of a cache that was empty, after some demands. -/
def met (longest : Span) (history : List Asked) : Memory :=
  history.foldl (fun m a => (m.meet longest a).1) {}

end Memory

/-- The use of its memory that a cache makes for a demand. -/
def Asked.use? (longest : Span) (a : Asked) : Option Use :=
  match a.demand with
  | .lookUp key => some ⟨a.time, .get key⟩
  | .keep key payload lifetime =>
    (ttlFor? longest lifetime).map fun ttl => ⟨a.time, .put key payload ttl⟩
  | .purge => some ⟨a.time, .purge⟩

section Demands

variable {longest : Span} {history : List Asked} {key : Key}

theorem Memory.meet_eq (longest : Span) (m : Memory) (a : Asked) :
    (m.meet longest a).1 = ((a.use? longest).map fun u => (m.use u).1).getD m := by
  obtain ⟨time, demand⟩ := a
  cases demand with
  | lookUp key => rfl
  | keep key payload lifetime =>
    cases h : ttlFor? longest lifetime <;> simp [meet, Asked.use?, h, use]
  | purge => rfl

theorem Memory.met_eq_used (longest : Span) (history : List Asked) :
    met longest history = used {} (history.filterMap (Asked.use? longest)) := by
  induction history using List.reverseRec with
  | nil => rfl
  | append_singleton past a ih =>
    rw [met, List.foldl_concat, ← met, ih, meet_eq, List.filterMap_append]
    cases h : a.use? longest with
    | none => simp [h]
    | some u =>
      rw [List.filterMap_cons_some h, List.filterMap_nil, used_concat]
      rfl

/-- What is kept has the time to live that its lifetime leads to. -/
theorem Asked.exists_keep {a : Asked} {u : Use} {e : Entry} (used : a.use? longest = some u)
    (made : u.entryFor key = some e) :
    ∃ lifetime, a = ⟨e.createdAt, .keep key e.payload lifetime⟩ ∧
      ttlFor? longest lifetime = some e.ttl := by
  obtain ⟨time, demand⟩ := a
  cases demand with
  | lookUp other =>
    cases used
    cases made
  | keep other payload lifetime =>
    obtain ⟨ttl, told, rfl⟩ := Option.map_eq_some_iff.mp used
    replace made : (if other = key then some (Entry.mk payload time ttl) else none) = some e := made
    split at made
    · rename_i same
      obtain rfl := Option.some.inj made
      exact ⟨lifetime, by rw [same], told⟩
    · cases made
  | purge =>
    cases used
    cases made

/-- What is held was kept on demand, and nothing under its key since. -/
theorem exists_keep_of_held {e : Entry}
    (held : Held key (history.filterMap (Asked.use? longest)) e) :
    ∃ before lifetime since,
      history = before ++ ⟨e.createdAt, .keep key e.payload lifetime⟩ :: since ∧
      ttlFor? longest lifetime = some e.ttl ∧
      ∀ a ∈ since, ∀ payload lifetime, a.demand = .keep key payload lifetime →
        lifetime.isZero = true := by
  obtain ⟨_, kept, _, same, made, spared⟩ := held
  obtain ⟨before, rest, rfl, _, same⟩ := List.filterMap_eq_append_iff.mp same
  obtain ⟨idle, a, since, rfl, _, used, rfl⟩ := List.filterMap_eq_cons_iff.mp same
  obtain ⟨lifetime, rfl, told⟩ := Asked.exists_keep used made
  refine ⟨before ++ idle, lifetime, since, by simp, told, ?_⟩
  intro b hb payload other demand
  cases zero : other.isZero with
  | true => rfl
  | false =>
    have putAgain : b.use? longest =
        some ⟨b.time, .put key payload (effectiveTtl longest other)⟩ := by
      simp [Asked.use?, demand, ttlFor?, zero]
    exact absurd rfl (spared _ (List.mem_filterMap.mpr ⟨b, hb, putAgain⟩))

theorem Memory.meet_lookUp {m : Memory} {now : Instant} {hit : Hit} :
    (m.meet longest ⟨now, .lookUp key⟩).2 = some hit ↔
      ∃ e, m.get? now key = some e ∧ e.hit = hit := by
  show hitOf (.ok (m.get? now key)) = some hit ↔ _
  cases m.get? now key <;> simp [hitOf]

theorem isZero_of_ttlFor? {requested ttl : Span} (h : ttlFor? longest requested = some ttl) :
    requested.isZero = false ∧ ttl = effectiveTtl longest requested := by
  rw [ttlFor?] at h
  split at h
  · cases h
  · cases h
    exact ⟨Bool.eq_false_iff.mpr ‹_›, rfl⟩

theorem Memory.lookup_met {e : Entry} :
    (met longest history).entries.lookup key = some e ↔
      Held key (history.filterMap (Asked.use? longest)) e := by
  rw [met_eq_used]
  exact (follows_used _).holds key e

/-- No entry lives forever. -/
theorem Memory.ttl_of_mem_met {x : Key × Entry} (hx : x ∈ (met longest history).entries) :
    x.2.ttl.isZero = false := by
  have once : (met longest history).OnePerKey := met_eq_used longest history ▸ (follows_used _).once
  obtain ⟨_, lifetime, _, _, told, _⟩ :=
    exists_keep_of_held (lookup_met.mp ((mem_iff_lookup once).mp hx))
  rw [(isZero_of_ttlFor? told).2]
  exact isZero_effectiveTtl ..

/-- An entry that is to live for a second at least and has not expired is younger than that. -/
theorem Entry.shown_lt {e : Entry} {now : Instant} (created : e.createdAt.Told) (told : now.Told)
    (ttl : Span.perSecond ≤ e.ttl.nanos) (fresh : e.isExpired now = false) :
    now.shown < e.createdAt.nanos + e.ttl.nanos := by
  have mortal : e.ttl.isZero = false := by
    have positive : 0 < Span.perSecond := by decide
    rw [Span.isZero, decide_eq_false_iff_not]
    omega
  have exact := Entry.expiresExactly created told
  have notExpired : ¬ e.isExpired now = true := by simp [fresh]
  cases leap : e.createdAt.isLeap with
  | false =>
    rw [exact.made leap] at notExpired
    exact Int.not_le.mp fun passed => notExpired ⟨mortal, passed⟩
  | true =>
    have far := Instant.isLeap_iff.mp leap
    rw [exact.beyond leap (by omega)] at notExpired
    have early := Int.not_le.mp fun passed => notExpired ⟨mortal, passed⟩
    omega

/-- **Expiry is exact, so nothing old is served.** Whether an entry has expired is told by
nanoseconds, however far its time to live leads. So whatever a cache was asked for, no entry in
its memory lives forever, and a hit is what was kept last under its key, and younger than the
lifetime asked for then, limited to the longest one and extended to a second. -/
theorem expiry_exact_and_hits_young :
    (∀ (e : Entry) (now : Instant), e.createdAt.Told → now.Told → ExpiresExactly e now) ∧
    ∀ (longest : Span) (history : List Asked), (∀ a ∈ history, a.time.Told) →
      (∀ x ∈ (Memory.met longest history).entries, x.2.ttl.isZero = false) ∧
      ∀ past now key later hit, history = past ++ ⟨now, .lookUp key⟩ :: later →
        ((Memory.met longest past).meet longest ⟨now, .lookUp key⟩).2 = some hit →
        ∃ before lifetime since,
          past = before ++ ⟨hit.createdAt, .keep key hit.payload lifetime⟩ :: since ∧
          lifetime.isZero = false ∧
          (∀ a ∈ since, ∀ payload other, a.demand = .keep key payload other →
            other.isZero = true) ∧
          (now.isLeap = false → now.nanos - hit.createdAt.nanos <
            (max Span.perSecond (min lifetime.nanos longest.nanos) : Nat)) ∧
          now.shown - hit.createdAt.nanos <
            (max Span.perSecond (min lifetime.nanos longest.nanos) : Nat) := by
  refine ⟨fun e now => Entry.expiresExactly, ?_⟩
  intro longest history told
  refine ⟨fun x hx => Memory.ttl_of_mem_met hx, ?_⟩
  intro past now key later hit same found
  obtain ⟨e, served, rfl⟩ := Memory.meet_lookUp.mp found
  obtain ⟨stored, fresh⟩ := Option.filter_eq_some_iff.mp served
  obtain ⟨before, lifetime, since, rfl, kept, last⟩ :=
    exists_keep_of_held (Memory.lookup_met.mp stored)
  obtain ⟨asked, ttl⟩ := isZero_of_ttlFor? kept
  have ttl_nanos : e.ttl.nanos = max Span.perSecond (min lifetime.nanos longest.nanos) := by
    rw [ttl]
    exact Nat.max_comm ..
  have young : now.shown < e.createdAt.nanos + e.ttl.nanos := by
    refine Entry.shown_lt ?_ ?_ (ttl_nanos ▸ Nat.le_max_left ..) (by simpa using fresh)
    · exact told ⟨e.createdAt, .keep key e.payload lifetime⟩ (by simp [same])
    · exact told ⟨now, .lookUp key⟩ (by simp [same])
  rw [ttl_nanos] at young
  have age : now.shown - e.createdAt.nanos <
      (max Span.perSecond (min lifetime.nanos longest.nanos) : Nat) :=
    Int.sub_left_lt_of_lt_add young
  exact ⟨before, lifetime, since, rfl, asked, last,
    fun plain => Instant.shown_eq_nanos plain ▸ age, age⟩

/-- A result is kept for a minute, and looked up in the leap second at its end. -/
def leapMinute : List Asked :=
  [⟨⟨0, 0⟩, .keep ⟨"minute"⟩ [1] (.ofSeconds 60)⟩, ⟨⟨30, 0⟩, .purge⟩,
    ⟨⟨59, 1500000000⟩, .lookUp ⟨"minute"⟩⟩]

theorem leapMinute_young : (∀ a ∈ leapMinute, a.time.Told) ∧
    ExpiresExactly ⟨[], ⟨0, 0⟩, .ofSeconds (Span.secondsLimit - 1)⟩ ⟨Instant.lastSecond, 0⟩ ∧
    (∀ x ∈ (Memory.met (.ofSeconds 3600) leapMinute).entries, x.2.ttl.isZero = false) ∧
    ∃ hit, ((Memory.met (.ofSeconds 3600) (leapMinute.take 2)).meet (.ofSeconds 3600)
        ⟨⟨59, 1500000000⟩, .lookUp ⟨"minute"⟩⟩).2 = some hit ∧
      hit.payload = [1] ∧ Instant.shown ⟨59, 1500000000⟩ - hit.createdAt.nanos < 60000000000 := by
  have told : ∀ a ∈ leapMinute, a.time.Told := by decide +kernel
  obtain ⟨exact, young⟩ := expiry_exact_and_hits_young
  obtain ⟨mortal, hits⟩ := young (.ofSeconds 3600) leapMinute told
  have stored : (Memory.met (.ofSeconds 3600) (leapMinute.take 2)).get? ⟨59, 1500000000⟩
      ⟨"minute"⟩ = some ⟨[1], ⟨0, 0⟩, .ofSeconds 60⟩ := by
    decide +kernel
  have found : ((Memory.met (.ofSeconds 3600) (leapMinute.take 2)).meet (.ofSeconds 3600)
      ⟨⟨59, 1500000000⟩, .lookUp ⟨"minute"⟩⟩).2 = some (Entry.hit ⟨[1], ⟨0, 0⟩, .ofSeconds 60⟩) :=
    Memory.meet_lookUp.mpr ⟨_, stored, rfl⟩
  obtain ⟨before, lifetime, since, same, _, _, _, age⟩ := hits _ _ _ [] _ rfl found
  have minute : lifetime = .ofSeconds 60 := by
    have kept : (⟨⟨0, 0⟩, .keep ⟨"minute"⟩ [1] lifetime⟩ : Asked) ∈ leapMinute.take 2 := by
      rw [same]
      simp [Entry.hit]
    simpa [leapMinute] using kept
  refine ⟨told, exact _ _ (by decide +kernel) (by decide +kernel), mortal, _, found, rfl, ?_⟩
  subst minute
  exact lt_of_lt_of_eq age (by decide)

end Demands

end Cache

end QueryGateway
