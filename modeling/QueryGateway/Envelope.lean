import QueryGateway.Cache.Hit
import QueryGateway.Json.Fields
import QueryGateway.Time.Timestamp

/-! The response to a statement, the same for every outcome.

What the executor adds beyond the envelope's own fields is written behind them, so an
added field of the same name wins. -/
namespace QueryGateway

/-- What a response says about the cache. -/
inductive CacheStatus where
  | hit (createdAt : Instant) (signature : String) (expiresAt : Option Instant)
  | miss (flag : Bool)
  deriving DecidableEq, Repr

namespace CacheStatus

/-- The status of a result that was found. -/
def ofHit (h : Cache.Hit) : CacheStatus := .hit h.createdAt h.signature h.expiresAt

def isHit : CacheStatus → Bool
  | .hit .. => true
  | .miss _ => false

def toJson : CacheStatus → Json
  | .miss flag => .bool flag
  | .hit createdAt signature expiresAt =>
    .ofMembers ([("created_at", .string createdAt.render), ("signature", .string signature)]
      ++ (expiresAt.map fun t => ("expires_at", Json.string t.render)).toList)

/-- An instant in its text form. -/
def instant? (v : Json) : Option Instant := v.asString?.bind Instant.read

def ofJson? : Json → Option CacheStatus
  | .bool flag => some (.miss flag)
  | v => do
    let fs ← Json.fields? ["created_at", "signature", "expires_at"] v
    return .hit (← fs.required "created_at" instant?) (← fs.required "signature" Json.asString?)
      (← fs.optional "expires_at" instant?)

end CacheStatus

/-- A response. -/
structure Envelope where
  success : Bool
  code : Option UInt16 := none
  message : Option String := none
  data : Option Json := none
  affectedRows : Option Nat := none
  cacheHit : Option CacheStatus := none
  authCheck : Option Json.Members := none
  peakMemoryUsage : Option String := none
  extra : Json.Members := []

namespace Envelope

/-- The status code of the response: 200 for a success, the envelope's code otherwise. -/
def httpStatus (e : Envelope) : UInt16 := if e.success then 200 else e.code.getD 500

/-- The names of the envelope's own fields. -/
def fieldNames : List String :=
  ["success", "code", "message", "data", "affected_rows", "cache_hit", "auth_check",
   "peak_memory_usage"]

/-- The envelope's own fields that are there. -/
def ownMembers (e : Envelope) : List (String × Json) :=
  [("success", .bool e.success)]
    ++ (e.code.map fun c => ("code", Json.ofNat c.toNat)).toList
    ++ (e.message.map fun m => ("message", Json.string m)).toList
    ++ (e.data.map fun d => ("data", d)).toList
    ++ (e.affectedRows.map fun n => ("affected_rows", Json.ofNat n)).toList
    ++ (e.cacheHit.map fun s => ("cache_hit", s.toJson)).toList
    ++ (e.authCheck.map fun ms => ("auth_check", Json.object ms)).toList
    ++ (e.peakMemoryUsage.map fun m => ("peak_memory_usage", Json.string m)).toList

def toJson (e : Envelope) : Json := .object ((Json.Members.ofList e.ownMembers).extend e.extra)

/-- Reads an envelope. Its own fields apart, everything is extra; a null field counts as
missing. -/
def ofJson? (v : Json) : Option Envelope := do
  let ms ← v.asObject?
  let fs : Json.Fields := Json.Members.get? ms
  return {
    success := ← fs.required "success" Json.asBool?
    code := ← fs.optional "code" Json.asUInt16?
    message := ← fs.optional "message" Json.asString?
    data := ← fs.optional "data" some
    affectedRows := ← fs.optional "affected_rows" Json.asNat64?
    cacheHit := ← fs.optional "cache_hit" CacheStatus.ofJson?
    authCheck := ← fs.optional "auth_check" Json.asObject?
    peakMemoryUsage := ← fs.optional "peak_memory_usage" Json.asString?
    extra := Json.Members.without fieldNames ms }

end Envelope

end QueryGateway
