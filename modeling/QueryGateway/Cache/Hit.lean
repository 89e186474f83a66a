import QueryGateway.Cache.Store

/-! What a lookup finds, and how long a result is kept. -/
namespace QueryGateway.Cache

/-- An entry that was found, with its signature. -/
structure Hit where
  payload : List UInt8
  createdAt : Instant
  expiresAt : Option Instant
  signature : String
  deriving DecidableEq, Repr

/-- The hit that an entry makes. -/
def Entry.hit (e : Entry) : Hit := ⟨e.payload, e.createdAt, e.expiresAt?, signature e.payload⟩

/-- What a store's answer to a lookup is worth: a store that fails has nothing. -/
def hitOf : Except StoreError (Option Entry) → Option Hit
  | .ok (some e) => some e.hit
  | .ok none => none
  | .error _ => none

/-- The shortest time to live. -/
def shortestTtl : Span := .ofSeconds 1

/-- How long a result is kept: as long as it is asked for, at most `longest`, and at least
a second. -/
def effectiveTtl (longest requested : Span) : Span := (requested.min longest).max shortestTtl

/-- How long a result that asks for a lifetime is to be kept, if it is to be kept at all. -/
def ttlFor? (longest requested : Span) : Option Span :=
  if requested.isZero then none else some (effectiveTtl longest requested)

end QueryGateway.Cache
