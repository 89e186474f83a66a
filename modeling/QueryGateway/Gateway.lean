import QueryGateway.Envelope
import QueryGateway.Gatekeeper
import QueryGateway.Json.Printer
import QueryGateway.Text.Lines

/-! The gateway: running cleared statements alone, in a batch, or as a stream of rows.

A read whose request has a lifetime goes through the cache. A batch is one transaction: its
first failure undoes it and is the answer. Only reads are streamed; any other statement
that is to be streamed runs alone. Batches and streams leave the cache alone. -/
namespace QueryGateway

/-- A gateway: its policy, the longest time for which it keeps results, and what it reports
of its use of memory. -/
structure Gateway where
  policy : Policy := {}
  longestLifetime : Span := .zero
  memoryUsage : Option String := none
  deriving Repr

/-- The answer to a request for a stream: rows, or an envelope for what is not streamed. -/
inductive StreamAnswer where
  | rows (rows : List (Except ExecutionError Json))
  | envelope (e : Envelope)

/-! ### Envelopes -/

/-- The envelope of an outcome. -/
def Outcome.envelope (o : Outcome) (verdict : Option Verdict) (cache : Option CacheStatus) :
    Envelope :=
  { success := true, data := some o.data, affectedRows := o.affectedRows, cacheHit := cache,
    authCheck := verdict.map Verdict.summary, extra := o.extra }

/-- The envelope of a refusal. -/
def Refusal.envelope (r : Refusal) : Envelope :=
  { success := false, code := some r.code, message := some r.message, authCheck := r.authCheck? }

/-- The compact JSON text of an outcome, its fields in their order. -/
def Outcome.text (o : Outcome) : List Char := '\x7b' :: Json.renderMembers o.members

/-- The bytes that are kept of an outcome. -/
def Outcome.payload (o : Outcome) : List UInt8 := Text.Utf8.encodeChars o.text

/-- The outcome of which bytes were kept, if they can be read. -/
def Outcome.ofPayload? (payload : List UInt8) : Option Outcome :=
  (Text.Utf8.decode? payload).bind fun s => Outcome.ofText? s.toList

namespace Gateway

/-- Completes an envelope with what is reported of the use of memory. -/
def finish (g : Gateway) (e : Envelope) : Envelope := { e with peakMemoryUsage := g.memoryUsage }

def success (g : Gateway) (o : Outcome) (verdict : Option Verdict) (cache : Option CacheStatus) :
    Envelope :=
  g.finish (o.envelope verdict cache)

def failure (g : Gateway) (r : Refusal) : Envelope := g.finish r.envelope

/-- The envelope of a result. -/
def settle (g : Gateway) : Except Refusal Envelope → Envelope
  | .ok e => e
  | .error r => g.failure r

/-! ### One statement -/

/-- The outcome of a statement run alone. -/
def execute (sql : String) (options : ExecutionOptions) :
    Consultation (Except Refusal Outcome) := do
  return (← (Call.execute sql options).put).mapError .execution

/-- Runs a read and keeps its outcome under a key. -/
def runAndKeep (g : Gateway) (r : Request) (p : Prepared) (key : Cache.Key) :
    Consultation (Except Refusal Envelope) := do
  match ← execute p.sql (r.options .query) with
  | .error refusal => return .error refusal
  | .ok outcome =>
    if let some ttl := Cache.ttlFor? g.longestLifetime r.lifetime then
      let _ ← (Call.keep key outcome.payload ttl).put
    return .ok (g.success outcome p.verdict (some (.miss false)))

/-- What is served of a kept result, if it can be read. -/
def served (g : Gateway) (p : Prepared) (hit : Cache.Hit) : Option Envelope :=
  (Outcome.ofPayload? hit.payload).map fun outcome =>
    g.success outcome p.verdict (some (.ofHit hit))

/-- Answers a read, from the cache if the request allows it. -/
def runRead (g : Gateway) (r : Request) (p : Prepared) :
    Consultation (Except Refusal Envelope) := do
  if r.wantsCache then
    let key := Cache.Key.of p.sql r.lifetime
    match (Cache.hitOf (← (Call.lookUp key).put)).bind (g.served p) with
    | some e => return .ok e
    | none => g.runAndKeep r p key
  else
    match ← execute p.sql (r.options .query) with
    | .error refusal => return .error refusal
    | .ok outcome => return .ok (g.success outcome p.verdict none)

/-- Runs a cleared statement. -/
def runPrepared (g : Gateway) (r : Request) (p : Prepared) :
    Consultation (Except Refusal Envelope) := do
  if p.operation = .read then g.runRead r p
  else
    match ← execute p.sql (r.options .mutation) with
    | .error refusal => return .error refusal
    | .ok outcome => return .ok (g.success outcome p.verdict none)

/-- Answers a request for one statement. -/
def runSingle (g : Gateway) (r : Request) (account : AccountContext) : Consultation Envelope := do
  match ← prepare g.policy r account with
  | .error refusal => return g.failure refusal
  | .ok p => return g.settle (← g.runPrepared r p)

/-! ### Batches -/

/-- The kind in which an operation is run. -/
def kindOf (o : Operation) : ExecutionKind := if o.isMutation then .mutation else .query

/-- Clears one statement of a batch and runs it. -/
def runStep (g : Gateway) (r : Request) (account : AccountContext) :
    Consultation (Except Refusal (Prepared × Outcome)) := do
  match ← prepare g.policy r account with
  | .error refusal => return .error refusal
  | .ok p =>
    match ← (Call.executeInBatch p.sql (r.options (kindOf p.operation))).put with
    | .error e => return .error (.execution e)
    | .ok outcome => return .ok (p, outcome)

/-- Runs the statements of a batch until one fails; answers the last step. -/
def runSteps (g : Gateway) (template : Request) (account : AccountContext) :
    List String → (last : Option (Prepared × Outcome)) →
    Consultation (Except Refusal (Option (Prepared × Outcome)))
  | [], last => return .ok last
  | sql :: rest, _ => do
    match ← g.runStep (template.forStatement sql) account with
    | .error refusal => return .error refusal
    | .ok step => g.runSteps template account rest (some step)

/-- The statements of a batch: its lines, without blanks around them and without blank
ones. -/
def statements (batch : String) : List String :=
  ((Text.lines batch).map Text.trim).filter (!·.isEmpty)

/-- The envelope of a batch: that of its last statement, with the number of statements. -/
def batchEnvelope (g : Gateway) (last : Option (Prepared × Outcome)) (count : Nat) : Envelope :=
  let e := match last with
    | some (p, outcome) => g.success outcome p.verdict none
    | none => g.success {} none none
  { e with extra := e.extra.insert "statements" (.ofNat count) }

/-- Answers a request for a batch; the template stands for all of the request but its
statements. -/
def runBatch (g : Gateway) (batch : String) (template : Request) (account : AccountContext) :
    Consultation Envelope := do
  match ← Call.openBatch.put with
  | .error e => return g.failure (.execution e)
  | .ok () =>
    let sqls := statements batch
    match ← g.runSteps template account sqls none with
    | .error refusal =>
      let _ ← Call.rollback.put
      return g.failure refusal
    | .ok last =>
      match ← Call.commit.put with
      | .error e => return g.failure (.execution e)
      | .ok () => return g.batchEnvelope last sqls.length

/-! ### Streams -/

/-- Answers a request for a stream. -/
def openStream (g : Gateway) (r : Request) (account : AccountContext) :
    Consultation StreamAnswer := do
  match ← prepare g.policy r account with
  | .error refusal => return .envelope (g.failure refusal)
  | .ok p =>
    if p.operation = .read then return .rows (← (Call.stream p.sql (r.options .query)).put)
    else return .envelope (g.settle (← g.runPrepared r p))

end Gateway

end QueryGateway
