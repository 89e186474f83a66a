import QueryGateway.Cache.Hit

/-! When a kept result has expired.

An entry without an expiry that an instant can tell is never expired. As long as the clock
stays within the calendar this is what its time to live says: the moment at which it would
expire lies behind the calendar's end (`not_notAfter_of_later?_eq_none`). -/
namespace QueryGateway

namespace Instant

variable {t u v : Instant}

theorem notAfter_iff :
    t.notAfter u = true ↔ t.second < u.second ∨ t.second = u.second ∧ t.fraction ≤ u.fraction := by
  simp [notAfter]

theorem notAfter_refl (t : Instant) : t.notAfter t = true :=
  notAfter_iff.mpr (.inr ⟨rfl, Nat.le_refl _⟩)

theorem notAfter_trans (h : t.notAfter u = true) (h' : u.notAfter v = true) :
    t.notAfter v = true := by
  rw [notAfter_iff] at h h' ⊢
  omega

theorem inCalendar_iff {second : Int} :
    inCalendar second = true ↔ firstSecond ≤ second ∧ second ≤ lastSecond := by
  simp [inCalendar]

/-- Another time, if it is no earlier and within the calendar: a clock does not go back. -/
def forwardTo (now time : Instant) : Instant :=
  if now.notAfter time && inCalendar time.second then time else now

theorem notAfter_forwardTo (now time : Instant) : now.notAfter (now.forwardTo time) = true := by
  unfold forwardTo
  split
  · exact (Bool.and_eq_true_iff.mp ‹_›).1
  · exact notAfter_refl now

theorem inCalendar_forwardTo {now : Instant} (h : inCalendar now.second = true)
    (time : Instant) : inCalendar (now.forwardTo time).second = true := by
  unfold forwardTo
  split
  · exact (Bool.and_eq_true_iff.mp ‹_›).2
  · exact h

/-- A span leads at least its whole seconds further, unless it ends within a leap second. -/
theorem second_after (t : Instant) {s : Span} (long : 2 * Span.perSecond ≤ s.nanos) :
    t.second + (s.nanos / Span.perSecond : Nat) ≤ (t.after s).second := by
  have further (fraction : Nat) : t.second + (s.nanos / Span.perSecond : Nat) ≤
      (advance ⟨t.second, fraction⟩ s).second := by
    have more : s.nanos / Span.perSecond ≤ (fraction + s.nanos) / Span.perSecond :=
      Nat.div_le_div_right (Nat.le_add_left ..)
    show _ ≤ t.second + (((fraction + s.nanos) / Span.perSecond : Nat) : Int)
    omega
  unfold after
  split
  · exact further t.fraction
  · split
    · omega
    · exact further _

/-- The longest step is longer than the calendar. -/
theorem calendar_lt_longestStep :
    lastSecond - firstSecond < (longestStep.nanos / Span.perSecond : Nat) := by
  decide +kernel

/-- What no instant can tell is later than every instant. -/
theorem not_notAfter_of_later?_eq_none {s : Span} (h : t.later? s = none)
    (ht : inCalendar t.second = true) (hu : inCalendar u.second = true) :
    (t.after s).notAfter u = false := by
  have behind : lastSecond < (t.after s).second := by
    by_cases short : s.nanos ≤ longestStep.nanos
    · by_cases within : (t.after s).second ≤ lastSecond
      · rw [later?, if_pos (by simp [short, within])] at h
        cases h
      · exact Int.not_le.mp within
    · have two : 2 * Span.perSecond ≤ longestStep.nanos := by decide +kernel
      have further := second_after t (Nat.le_trans two (Nat.le_of_not_le short))
      have seconds : longestStep.nanos / Span.perSecond ≤ s.nanos / Span.perSecond :=
        Nat.div_le_div_right (Nat.le_of_not_le short)
      have calendar := calendar_lt_longestStep
      have first := (inCalendar_iff.mp ht).1
      omega
  rw [Bool.eq_false_iff, Ne, notAfter_iff]
  have last := (inCalendar_iff.mp hu).2
  omega

end Instant

namespace Cache

variable {e : Entry} {now later : Instant}

theorem Entry.isExpired_of_notAfter (h : e.isExpired now = true)
    (forward : now.notAfter later = true) : e.isExpired later = true := by
  unfold isExpired at h ⊢
  split at h
  · exact Instant.notAfter_trans h forward
  · cases h

theorem Entry.expiresAt?_eq (ttl : e.ttl.isZero = false) :
    e.expiresAt? = e.createdAt.later? e.ttl := by
  rw [expiresAt?, if_neg (by rw [ttl]; decide)]

/-- Within the calendar, an entry with a time to live has expired once that time has passed. -/
theorem Entry.isExpired_eq (ttl : e.ttl.isZero = false)
    (created : Instant.inCalendar e.createdAt.second = true)
    (told : Instant.inCalendar now.second = true) :
    e.isExpired now = (e.createdAt.after e.ttl).notAfter now := by
  rw [isExpired, Entry.expiresAt?_eq ttl]
  cases h : e.createdAt.later? e.ttl with
  | none => exact (Instant.not_notAfter_of_later?_eq_none h created told).symm
  | some t =>
    unfold Instant.later? at h
    split at h
    · cases h
      rfl
    · cases h

theorem isZero_effectiveTtl (longest requested : Span) :
    (effectiveTtl longest requested).isZero = false := by
  have second : shortestTtl.nanos ≤ (effectiveTtl longest requested).nanos :=
    Nat.le_max_right ..
  have positive : 0 < shortestTtl.nanos := by decide
  rw [Span.isZero, decide_eq_false_iff_not]
  omega

end Cache

end QueryGateway
