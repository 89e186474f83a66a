import QueryGateway.Cache.Key

/-! Where results are kept.

An entry is served until its time to live has passed; one whose time to live is zero never
expires, nor does one whose expiry no instant can tell. An expired entry stays in memory,
unserved, until a purge or a new entry under its key. -/
namespace QueryGateway.Cache

/-- A result that is kept. -/
structure Entry where
  payload : List UInt8
  createdAt : Instant
  ttl : Span
  deriving DecidableEq, Repr

namespace Entry

/-- When an entry expires, if it does. -/
def expiresAt? (e : Entry) : Option Instant :=
  if e.ttl.isZero then none else e.createdAt.later? e.ttl

/-- Whether an entry has expired. -/
def isExpired (e : Entry) (now : Instant) : Bool :=
  match e.expiresAt? with
  | some t => t.notAfter now
  | none => false

end Entry

/-- Why a store did not answer. -/
inductive StoreError where
  | unavailable (text : String)
  | backend (text : String)
  deriving DecidableEq, Repr

/-- The text of a store's error. -/
def StoreError.message : StoreError → String
  | .unavailable text => "cache backend unavailable: " ++ text
  | .backend text => "cache backend error: " ++ text

/-- Entries in memory, one for each key. -/
structure Memory where
  entries : List (Key × Entry) := []
  deriving DecidableEq, Repr

namespace Memory

/-- The entry of a key, unless it has expired. -/
def get? (m : Memory) (now : Instant) (key : Key) : Option Entry :=
  (m.entries.lookup key).filter fun e => !e.isExpired now

/-- Sets the entry of a key, in the place of the one before it if there is one. -/
def set (key : Key) (e : Entry) : List (Key × Entry) → List (Key × Entry)
  | [] => [(key, e)]
  | (k, v) :: rest => if k = key then (key, e) :: rest else (k, v) :: set key e rest

/-- Keeps a payload from now on. -/
def put (m : Memory) (now : Instant) (key : Key) (payload : List UInt8) (ttl : Span) : Memory :=
  ⟨set key ⟨payload, now, ttl⟩ m.entries⟩

/-- Drops what has expired. -/
def purge (m : Memory) (now : Instant) : Memory :=
  ⟨m.entries.filter fun (_, e) => !e.isExpired now⟩

/-- How many entries there are, expired ones included. -/
def size (m : Memory) : Nat := m.entries.length

def isEmpty (m : Memory) : Bool := m.entries.isEmpty

/-- How many entries a purge drops. -/
def expiredCount (m : Memory) (now : Instant) : Nat := m.size - (m.purge now).size

end Memory

/-- A store: memory, or one that keeps nothing. -/
inductive Store where
  | memory (m : Memory)
  | disabled
  deriving Repr

namespace Store

def get? : Store → Instant → Key → Option Entry
  | .memory m, now, key => m.get? now key
  | .disabled, _, _ => none

def put : Store → Instant → Key → List UInt8 → Span → Store
  | .memory m, now, key, payload, ttl => .memory (m.put now key payload ttl)
  | .disabled, _, _, _, _ => .disabled

/-- Drops what has expired, and tells how many entries these were. -/
def purge : Store → Instant → Store × Nat
  | .memory m, now => (.memory (m.purge now), m.expiredCount now)
  | .disabled, _ => (.disabled, 0)

end Store

end QueryGateway.Cache
