import QueryGateway.Proofs.Cache.Store
import QueryGateway.Proofs.Gateway.Course
import QueryGateway.Proofs.Gateway.Payload

/-! A memory among the collaborators: what it answers to a call, and what it holds after it.

The other calls are answered by whoever else there is. A call gives the memory at most one
entry (`Call.entryFor`), which is what the memory has for its key from then on
(`Cache.Memory.get?_after`). -/
namespace QueryGateway

open Dialogue

namespace Cache.Memory

/-- How a call is answered when the memory is asked for what it holds, and others for the
rest. -/
def answer (m : Memory) (now : Instant) (others : (c : Call) → c.Answer) : (c : Call) → c.Answer
  | .lookUp key => .ok (m.get? now key)
  | .keep .. => .ok ()
  | call => others call

/-- The memory after a call. -/
def after (m : Memory) (now : Instant) : Call → Memory
  | .keep key payload ttl => m.put now key payload ttl
  | _ => m

end Cache.Memory

/-- The entry that a call makes for a key. -/
def Call.entryFor (now : Instant) (key : Cache.Key) : Call → Option Cache.Entry
  | .keep other payload ttl => if key = other then some ⟨payload, now, ttl⟩ else none
  | _ => none

/-- What is left of an entry at a time: nothing, once it has expired. -/
def Cache.unexpired (later : Instant) (e : Option Cache.Entry) : Option Cache.Entry :=
  e.filter fun e => !e.isExpired later

section Entry

variable {now : Instant} {key : Cache.Key} {call : Call} {e : Cache.Entry}

theorem Call.entryFor_eq_some : call.entryFor now key = some e ↔
    ∃ payload ttl, call = .keep key payload ttl ∧ e = ⟨payload, now, ttl⟩ := by
  cases call with
  | keep other payload ttl =>
    rw [entryFor]
    split
    · rename_i same
      subst same
      constructor
      · intro made
        cases made
        exact ⟨payload, ttl, rfl, rfl⟩
      · intro made
        obtain ⟨_, _, kept, rfl⟩ := made
        cases kept
        rfl
    · rename_i different
      refine iff_of_false (fun made => ?_) (fun made => ?_)
      · cases made
      · obtain ⟨_, _, kept, _⟩ := made
        cases kept
        exact different rfl
  | _ =>
    refine iff_of_false (fun made => ?_) (fun made => ?_)
    · cases made
    · obtain ⟨_, _, kept, _⟩ := made
      cases kept

theorem Call.entryFor_of_not_isKeep (h : call.isKeep = false) : call.entryFor now key = none := by
  cases call with
  | keep => cases h
  | _ => rfl

/-- A memory has what the last call gave it, and otherwise what it had before. -/
theorem Cache.Memory.get?_after (m : Memory) (now later : Instant) (call : Call) (key : Key) :
    (m.after now call).get? later key =
      match call.entryFor now key with
      | some e => Cache.unexpired later (some e)
      | none => m.get? later key := by
  cases call with
  | keep other payload ttl =>
    rw [after, get?_put, Call.entryFor]
    split
    · rfl
    · rfl
  | _ => rfl

theorem Cache.Memory.OnePerKey.after {m : Memory} (h : m.OnePerKey) (now : Instant)
    (call : Call) : (m.after now call).OnePerKey := by
  cases call with
  | keep key payload ttl => exact h.put now key payload ttl
  | _ => exact h

theorem Cache.unexpired_eq_some {later : Instant} {kept : Option Cache.Entry} :
    Cache.unexpired later kept = some e ↔ kept = some e ∧ e.isExpired later = false := by
  rw [Cache.unexpired, Option.filter_eq_some_iff, Bool.not_eq_true']

theorem Cache.unexpired_some (later : Instant) (e : Cache.Entry) :
    Cache.unexpired later (some e) = if e.isExpired later then none else some e := by
  rw [Cache.unexpired, Option.filter_some]
  cases e.isExpired later <;> rfl

end Entry

/-! ### Hits -/

theorem Cache.hitOf_eq_some {found : Option Cache.Entry} {hit : Cache.Hit} :
    Cache.hitOf (.ok found) = some hit ↔ ∃ e, found = some e ∧ hit = e.hit := by
  cases found with
  | none => exact iff_of_false nofun nofun
  | some e => simp [Cache.hitOf, eq_comm]

/-- A hit on an entry with a time to live. -/
theorem CacheStatus.ofHit_hit {e : Cache.Entry} (lives : e.ttl.isZero = false) :
    ofHit e.hit = .hit e.createdAt (Cache.signature e.payload) (e.createdAt.later? e.ttl) := by
  rw [ofHit, Cache.Entry.hit, Cache.Entry.expiresAt?_eq lives]

/-- The envelope shows an outcome. -/
def Envelope.Shows (e : Envelope) (o : Outcome) : Prop :=
  e.data = some o.data ∧ e.affectedRows = o.affectedRows ∧ e.extra = o.extra

theorem Gateway.success_shows (g : Gateway) (o : Outcome) (verdict : Option Verdict)
    (cache : Option CacheStatus) : (g.success o verdict cache).Shows o :=
  ⟨rfl, rfl, rfl⟩

/-! ### A gateway and a read -/

/-- A read to be kept for a minute. -/
def minuteRead : Request := { sql := "SELECT 1", lifetime := .ofSeconds 60 }

/-- A gateway that keeps results for an hour at most. -/
def hourGateway : Gateway := { longestLifetime := .ofSeconds 3600 }

/-- The event is no answer of the database, or has no rows and nothing else. -/
def Event.isPlain : Event → Bool
  | ⟨.execute _ _, .ok ⟨.null, none, []⟩⟩ => true
  | ⟨.execute _ _, _⟩ => false
  | _ => true

theorem regular_of_isPlain {sql : String} {options : ExecutionOptions} {o : Outcome}
    (h : Event.isPlain ⟨.execute sql options, .ok o⟩ = true) : o.Regular := by
  unfold Event.isPlain at h
  split at h
  · rename_i same
    cases same
    exact Outcome.regular_rows trivial
  · cases h
  · rename_i _ other
    exact (other _ _ _ rfl).elim

end QueryGateway
