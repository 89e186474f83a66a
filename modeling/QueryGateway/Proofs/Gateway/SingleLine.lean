import QueryGateway.Proofs.Gateway.Backstage
import QueryGateway.Proofs.Gateway.Batch

/-! A batch of one line beside a single statement.

The two take different ways to the database: one through a transaction, the other directly.
Where a transaction can be opened and committed and answers as the database does, they ask the
authorizer the same and answer the same, and the batch adds the number of its statements
(`oneLine_batch_as_single`). -/
namespace QueryGateway

open Dialogue

/-! ### One line -/

theorem Text.filledLines_of_oneLine {s : String} (filled : s ≠ "") (oneLine : '\n' ∉ s.toList)
    (trimmed : trim s = s) : filledLines s = [s] := by
  have full : s.isEmpty = false := by simpa using filled
  rw [filledLines, List.splitOn_eq_singleton oneLine, List.map_singleton,
    show String.ofList (trimChars s.toList) = s from trimmed, List.filter_singleton, full]
  rfl

/-! ### Two ways to run a statement -/

/-- The options with which a prepared statement is run. -/
def Request.optionsFor (r : Request) (p : Prepared) : ExecutionOptions :=
  r.options (Gateway.kindOf p.operation)

/-- An envelope with one statement counted, if it is a success. -/
def Envelope.countingOne (e : Envelope) : Envelope :=
  if e.success then { e with extra := e.extra.insert "statements" (.ofNat 1) } else e

namespace Gateway

/-- What a batch of one line leads to behind its gate. -/
def lineBehind (g : Gateway) (r : Request) : Except Refusal Prepared → Consultation Envelope
  | .error refusal => do
    let _ ← Call.rollback.put
    return g.failure refusal
  | .ok p => do
    match ← (Call.executeInBatch p.sql (r.optionsFor p)).put with
    | .error e =>
      let _ ← Call.rollback.put
      return g.failure (.execution e)
    | .ok outcome =>
      match ← Call.commit.put with
      | .error e => return g.failure (.execution e)
      | .ok () => return g.batchEnvelope (some (p, outcome)) 1

variable (g : Gateway)

/-- Without a lifetime a cleared statement is run, and that is all. -/
theorem runPrepared_of_uncached {r : Request} (uncached : r.wantsCache = false) (p : Prepared) :
    g.runPrepared r p = (Call.execute p.sql (r.optionsFor p)).put >>= fun answer =>
      pure (g.resultOf p answer) := by
  unfold runPrepared Request.optionsFor kindOf
  cases p.operation with
  | read =>
    rw [if_pos rfl, runRead, uncached]
    exact g.runDirectly_eq r p .query
  | write => exact g.runDirectly_eq r p .mutation
  | createWithKey => exact g.runDirectly_eq r p .mutation

/-- A batch of one line passes its gate in an open transaction. -/
theorem runBatch_of_statements {batch sql : String} (h : statements batch = [sql])
    (template : Request) (account : AccountContext) :
    g.runBatch batch template account = Call.openBatch.put >>= fun begun =>
      match begun with
      | .error e => pure (g.failure (.execution e))
      | .ok () =>
        prepare g.policy (template.forStatement sql) account >>=
          g.lineBehind (template.forStatement sql) := by
  unfold runBatch
  rw [h]
  refine bind_congr fun begun => ?_
  cases begun with
  | error e => rfl
  | ok _ =>
    dsimp only
    rw [runSteps, runStep]
    simp only [bind_assoc]
    refine bind_congr fun gate => ?_
    cases gate with
    | error refusal => rfl
    | ok p =>
      dsimp only [lineBehind]
      rw [bind_assoc]
      refine bind_congr fun answer => ?_
      cases answer with
      | error e => rfl
      | ok outcome =>
        show Call.commit.put >>= _ = Call.commit.put >>= _
        refine bind_congr fun committed => ?_
        cases committed <;> rfl

end Gateway

/-! ### The two modes -/

/-- A database of which a transaction can be opened in a state and committed in any, and answers
about a statement as the database itself does. -/
structure TransactsAlike {β : Type} (behind : (c : Call) → β → c.Answer × β) (sql : String)
    (b : β) : Prop where
  begins : (behind .openBatch b).1 = .ok ()
  commits : ∀ b', (behind .commit b').1 = .ok ()
  alike : ∀ options, (behind (.executeInBatch sql options) (behind .openBatch b).2).1 =
    (behind (.execute sql options) b).1

section Modes

variable {g : Gateway} {r : Request}

/-- An accepted line is run and committed if it does not fail. -/
theorem run_lineBehind {σ : Type} {reply : (c : Call) → σ → c.Answer × σ}
    (commits : ∀ s, (reply .commit s).1 = .ok ()) (p : Prepared) (s : σ) :
    ((g.lineBehind r (.ok p)).run reply s).1 =
      (g.settle (g.resultOf p
        (reply (.executeInBatch p.sql (r.optionsFor p)) s).1)).countingOne := by
  rw [Gateway.lineBehind, Call.put, run_ask]
  generalize reply (.executeInBatch p.sql (r.optionsFor p)) s = given
  obtain ⟨answer, s'⟩ := given
  cases answer with
  | error e => rfl
  | ok outcome =>
    dsimp only
    rw [Call.put, run_ask, commits s']
    rfl

/-- A cleared statement without a lifetime is run. -/
theorem run_singleBehind {σ : Type} {reply : (c : Call) → σ → c.Answer × σ}
    (uncached : r.wantsCache = false) (p : Prepared) (s : σ) :
    ((g.singleBehind r (.ok p)).run reply s).1 =
      g.settle (g.resultOf p (reply (.execute p.sql (r.optionsFor p)) s).1) := by
  rw [Gateway.singleBehind, g.runPrepared_of_uncached uncached]
  rfl

/-- A batch of one line, once it is open. -/
theorem run_runBatch_opened {σ : Type} (reply : (c : Call) → σ → c.Answer × σ)
    {batch sql : String} (line : Gateway.statements batch = [sql]) (template : Request)
    (account : AccountContext) {s : σ} (begins : (reply .openBatch s).1 = .ok ()) :
    let passage := prepare g.policy (template.forStatement sql) account >>=
      g.lineBehind (template.forStatement sql)
    (g.runBatch batch template account).run reply s = passage.run reply (reply .openBatch s).2 ∧
      (g.runBatch batch template account).transcript reply s =
        ⟨.openBatch, .ok ()⟩ :: passage.transcript reply (reply .openBatch s).2 := by
  rw [g.runBatch_of_statements line, Call.put, run_ask, transcript_ask, begins]
  exact ⟨rfl, rfl⟩

/-- Behind the gate the two modes come to the same. -/
theorem lineBehind_as_singleBehind {β : Type} {behind : (c : Call) → β → c.Answer × β} {b : β}
    (transacts : TransactsAlike behind r.sql b) (uncached : r.wantsCache = false)
    {gate : Except Refusal Prepared} (same : ∀ p, gate = .ok p → p.sql = r.sql) :
    ((g.lineBehind r gate).run behind (behind .openBatch b).2).1 =
      ((g.singleBehind r gate).run behind b).1.countingOne := by
  cases gate with
  | error refusal => rfl
  | ok p =>
    rw [run_lineBehind transacts.commits, run_singleBehind uncached, same p rfl,
      transacts.alike]

theorem only_others_put {c : Call} (h : c.asksAuthorizer = false) :
    c.put.Only fun c => c.asksAuthorizer = false :=
  only_question h

theorem only_others_lineBehind (gate : Except Refusal Prepared) :
    (g.lineBehind r gate).Only fun c => c.asksAuthorizer = false := by
  cases gate with
  | error => exact (only_others_put rfl).bind fun _ => only_pure _
  | ok p =>
    refine (only_others_put rfl).bind fun answer => ?_
    cases answer with
    | error => exact (only_others_put rfl).bind fun _ => only_pure _
    | ok =>
      refine (only_others_put rfl).bind fun committed => ?_
      cases committed <;> exact only_pure _

end Modes

theorem countingOne_finish (g : Gateway) (e : Envelope) :
    (g.finish e).countingOne = g.finish e.countingOne := by
  unfold Envelope.countingOne
  show (if e.success then _ else _) = _
  split <;> rfl

/-- **A batch of one line agrees with single mode.** For a text without a line feed and without
blanks around it, a template without a lifetime, and a database that transacts as it executes,
both modes ask the authorizer the same questions with the same answers, and the envelope of the
batch is that of the single statement, the report on memory apart. Only a success tells the
number of statements as well, in the place of anything that the database called so. -/
theorem oneLine_batch_as_single {α β : Type} (authorize : String → Question → α → Verdict × α)
    (behind : (c : Call) → β → c.Answer × β) (g : Gateway) (memory : Option String)
    (sql : String) (template : Request) (account : AccountContext) (a : α) (b : β)
    (filled : sql ≠ "") (oneLine : '\n' ∉ sql.toList) (trimmed : Text.trim sql = sql)
    (uncached : template.lifetime.isZero = true) (transacts : TransactsAlike behind sql b) :
    let world := answerApart authorize behind
    let batch := g.runBatch sql template account
    let single := (g.reporting memory).runSingle (template.forStatement sql) account
    questions (batch.transcript world (a, b)) = questions (single.transcript world (a, b)) ∧
      (batch.run world (a, b)).1 = g.finish (single.run world (a, b)).1.countingOne ∧
      ((single.run world (a, b)).1.success = true → ∀ name,
        Json.Members.get? (batch.run world (a, b)).1.extra name =
          if name = "statements" then some (.ofNat 1)
          else Json.Members.get? (single.run world (a, b)).1.extra name) := by
  intro world batch single
  have line : Gateway.statements sql = [sql] := by
    rw [Batch.statements_eq_filledLines, Text.filledLines_of_oneLine filled oneLine trimmed]
  obtain ⟨gate, a', passage, passed⟩ := run_gate authorize behind
    (only_authorizer_prepare g.policy (template.forStatement sql) account) a
  have same : ∀ p, gate = .ok p → p.sql = (template.forStatement sql).sql := by
    rintro p rfl
    have prepared := yields_transcript world (prepare g.policy (template.forStatement sql) account)
      (a, b)
    rw [(passed b).1] at prepared
    exact (inspect_of_prepare prepared).1
  -- the batch passes the gate once the transaction is open, the single statement at once
  obtain ⟨opened, openedAsked⟩ := run_runBatch_opened (g := g) world line template account
    (s := (a, b)) transacts.begins
  obtain ⟨ranBatch, askedBatch⟩ := run_behind_gate authorize behind (passed (behind .openBatch b).2)
    (only_others_lineBehind (g := g) (r := template.forStatement sql) gate)
  obtain ⟨ranSingle, askedSingle⟩ := run_behind_gate authorize behind (passed b)
    (only_others_singleBehind g (template.forStatement sql) gate)
  rw [← Gateway.runSingle_eq] at ranSingle askedSingle
  obtain ⟨envelope, _, askedAlike⟩ :=
    g.runSingle_but_memory memory world (template.forStatement sql) account (a, b)
  have ranBatch := opened.trans ranBatch
  have askedBatch := openedAsked.trans (congrArg (List.cons _) askedBatch)
  have questionsBatch : questions (batch.transcript world (a, b)) = questions passage := by
    rw [askedBatch, ← List.cons_append, questions_append,
      questions_eq_nil (only_others_lineBehind gate _ _ (yields_transcript ..)), List.append_nil]
    rfl
  have questionsSingle : questions (single.transcript world (a, b)) = questions passage := by
    rw [← askedAlike, askedSingle, questions_append,
      questions_eq_nil (only_others_singleBehind _ _ gate _ _ (yields_transcript ..)),
      List.append_nil]
  have answers : (batch.run world (a, b)).1 = g.finish (single.run world (a, b)).1.countingOne := by
    rw [← countingOne_finish, ← envelope, ranBatch, ranSingle]
    refine lineBehind_as_singleBehind transacts ?_ same
    exact congrArg not uncached
  refine ⟨questionsBatch.trans questionsSingle.symm, answers, fun success name => ?_⟩
  rw [answers, Envelope.countingOne, if_pos success]
  exact Json.Members.get?_insert ..

/-- A database that answers every statement with its text, and calls something the number of
statements. -/
def echoing : (c : Call) → Unit → c.Answer × Unit
  | .authorize .., s => (.granted, s)
  | .lookUp _, s => (.ok none, s)
  | .keep .., s => (.ok (), s)
  | .execute sql _, s => (.ok { data := .string sql, extra := [("statements", .null)] }, s)
  | .openBatch, s => (.ok (), s)
  | .executeInBatch sql _, s => (.ok { data := .string sql, extra := [("statements", .null)] }, s)
  | .commit, s => (.ok (), s)
  | .rollback, s => (.ok (), s)
  | .stream .., s => ([], s)

/-- A deletion, alone and as a batch, is asked about once, and only the batch counts it. -/
theorem echoing_oneLine :
    let world := answerApart countingGrants echoing
    let batch := ({} : Gateway).runBatch "DELETE FROM t" { sql := "" } ⟨"demo", none⟩
    let single := (({} : Gateway).reporting (some "1 MB")).runSingle
      (Request.forStatement { sql := "" } "DELETE FROM t") ⟨"demo", none⟩
    (batch.run world (0, ())).2.1 = 1 ∧
      questions (batch.transcript world (0, ())) = questions (single.transcript world (0, ())) ∧
      Json.Members.get? (batch.run world (0, ())).1.extra "statements" = some (.ofNat 1) := by
  have transacts : TransactsAlike echoing "DELETE FROM t" () :=
    ⟨rfl, fun _ => rfl, fun _ => rfl⟩
  obtain ⟨asked, _, counted⟩ := oneLine_batch_as_single countingGrants echoing {} (some "1 MB")
    "DELETE FROM t" { sql := "" } ⟨"demo", none⟩ 0 () (by decide) (by decide +kernel)
    (by decide +kernel) rfl transacts
  have told := counted (by decide +kernel) "statements"
  rw [if_pos rfl] at told
  exact ⟨by decide +kernel, asked, told⟩

end QueryGateway
