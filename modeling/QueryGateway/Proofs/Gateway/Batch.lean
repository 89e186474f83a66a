import QueryGateway.Proofs.Gateway.Session
import QueryGateway.Proofs.Json.Members
import QueryGateway.Proofs.Text.Lines

/-! Batches are kept as a whole or undone as a whole.

An open batch hands its statements to the transaction in their order until one of them
fails, and then ends the transaction: what was done is kept if none failed, and undone
otherwise (`Batch.atomic`). What stands behind a statement that fails is not looked at. -/
namespace QueryGateway

open Dialogue

/-- The text that an event hands to the transaction. -/
def Event.handed? (e : Event) : Option String :=
  match e.1 with
  | .executeInBatch sql _ => some sql
  | _ => none

/-- The texts that events hand to the transaction, in order. -/
def handed (events : List Event) : List String := events.filterMap Event.handed?

namespace Batch

section Runs

variable (g : Gateway) (template : Request) (account : AccountContext)

/-- A statement handed to the transaction, with what it answers. -/
def handing (sql : String) (p : Prepared) (answer : Except ExecutionError Outcome) : Event :=
  ⟨.executeInBatch sql (template.options (Gateway.kindOf p.operation)), answer⟩

/-- Statements were prepared and done in the transaction one after the other: what happened,
and what came of the last one. -/
inductive Done : List String → List Event → Option (Prepared × Outcome) → Prop
  | nil : Done [] [] none
  | snoc {sqls : List String} {events asked : List Event} {last : Option (Prepared × Outcome)}
      {sql : String} {p : Prepared} (before : Done sqls events last)
      (prepared : (prepare g.policy (template.forStatement sql) account).Yields asked (.ok p))
      (outcome : Outcome) :
      Done (sqls ++ [sql]) (events ++ (asked ++ [handing template sql p (.ok outcome)]))
        (some (p, outcome))

/-- A statement was not prepared, or failed in the transaction. -/
inductive Fails (sql : String) : List Event → Refusal → Prop
  | refused {asked : List Event} {refusal : Refusal}
      (refused : (prepare g.policy (template.forStatement sql) account).Yields asked
        (.error refusal)) : Fails sql asked refusal
  | broken {asked : List Event} {p : Prepared}
      (prepared : (prepare g.policy (template.forStatement sql) account).Yields asked (.ok p))
      (error : ExecutionError) :
      Fails sql (asked ++ [handing template sql p (.error error)]) (.execution error)

/-- Some statements were done, and the one behind them failed. -/
def Stops (sqls : List String) (bad : String) (events : List Event) (refusal : Refusal) : Prop :=
  ∃ before failing last, Done g template account sqls before last ∧
    Fails g template account bad failing refusal ∧ events = before ++ failing

end Runs

variable {g : Gateway} {template : Request} {account : AccountContext}

/-! ### One statement -/

section Step

variable {sql : String} {events asked : List Event} {p : Prepared}

theorem runStep_answers
    (prepared : (prepare g.policy (template.forStatement sql) account).Yields asked (.ok p))
    (answer : Except ExecutionError Outcome) :
    (g.runStep (template.forStatement sql) account).Yields
      (asked ++ [handing template sql p answer])
      ((answer.mapError .execution).map fun outcome => (p, outcome)) := by
  obtain ⟨hsql, _⟩ := cleared_of_prepare prepared
  refine yields_bind.mpr ⟨_, _, _, rfl, prepared, yields_ask.mpr ⟨answer, [], ?_, ?_⟩⟩
  · rw [hsql]
    rfl
  · cases answer <;> exact .done _

theorem Fails.runs {refusal : Refusal} (h : Fails g template account sql events refusal) :
    (g.runStep (template.forStatement sql) account).Yields events (.error refusal) := by
  cases h with
  | refused refused =>
    exact yields_bind.mpr ⟨_, _, [], (List.append_nil _).symm, refused, .done _⟩
  | broken prepared error => exact runStep_answers prepared (.error error)

theorem runStep_cases {result : Except Refusal (Prepared × Outcome)}
    (h : (g.runStep (template.forStatement sql) account).Yields events result) :
    (∃ asked p outcome,
      (prepare g.policy (template.forStatement sql) account).Yields asked (.ok p) ∧
      events = asked ++ [handing template sql p (.ok outcome)] ∧ result = .ok (p, outcome)) ∨
    ∃ refusal, Fails g template account sql events refusal ∧ result = .error refusal := by
  obtain ⟨asked, prepared?, rest, rfl, hprepare, hrest⟩ := yields_bind.mp h
  cases prepared? with
  | error refusal =>
    obtain ⟨rfl, rfl⟩ := yields_pure.mp hrest
    rw [List.append_nil]
    exact .inr ⟨refusal, .refused hprepare, rfl⟩
  | ok p =>
    obtain ⟨hsql, _⟩ := cleared_of_prepare hprepare
    obtain ⟨answer, last, rfl, hlast⟩ := yields_ask.mp hrest
    have handed : (⟨.executeInBatch p.sql ((template.forStatement sql).options
        (Gateway.kindOf p.operation)), answer⟩ : Event) = handing template sql p answer := by
      rw [hsql]
      rfl
    rw [handed]
    cases answer with
    | error error =>
      obtain ⟨rfl, rfl⟩ := yields_pure.mp hlast
      exact .inr ⟨.execution error, .broken hprepare error, rfl⟩
    | ok outcome =>
      obtain ⟨rfl, rfl⟩ := yields_pure.mp hlast
      exact .inl ⟨asked, p, outcome, hprepare, rfl, rfl⟩

end Step

/-! ### Statements in a row -/

section Row

variable {sqls : List String} {past events : List Event} {last : Option (Prepared × Outcome)}
  {refusal : Refusal}

/-- A row of statements goes on where some of it were done. -/
theorem Done.runs (done : Done g template account sqls past last) {rest : List String}
    {result : Except Refusal (Option (Prepared × Outcome))}
    (h : (g.runSteps template account rest last).Yields events result) :
    (g.runSteps template account (sqls ++ rest) none).Yields (past ++ events) result := by
  induction done generalizing rest events with
  | nil => exact h
  | snoc _ prepared outcome ih =>
    rw [List.append_assoc, List.append_assoc]
    exact ih (yields_bind.mpr ⟨_, _, _, rfl, runStep_answers prepared (.ok outcome), h⟩)

theorem Done.runs_all (done : Done g template account sqls past last) :
    (g.runSteps template account sqls none).Yields past (.ok last) := by
  have ended : (g.runSteps template account [] last).Yields [] (.ok last) := .done _
  have all := done.runs ended
  rwa [List.append_nil, List.append_nil] at all

theorem Stops.runs {bad : String} (stops : Stops g template account sqls bad events refusal)
    (later : List String) :
    (g.runSteps template account (sqls ++ bad :: later) none).Yields events (.error refusal) := by
  obtain ⟨before, failing, last, done, fails, rfl⟩ := stops
  refine done.runs (yields_bind.mpr ⟨_, _, [], (List.append_nil _).symm, fails.runs, .done _⟩)

/-- A row of statements is done to its end, or stops at one of them. -/
theorem runSteps_cases (done : Done g template account sqls past last) {rest : List String}
    {result : Except Refusal (Option (Prepared × Outcome))}
    (h : (g.runSteps template account rest last).Yields events result) :
    (∃ last', Done g template account (sqls ++ rest) (past ++ events) last' ∧
      result = .ok last') ∨
    ∃ more bad later refusal, rest = more ++ bad :: later ∧
      Stops g template account (sqls ++ more) bad (past ++ events) refusal ∧
      result = .error refusal := by
  induction rest generalizing sqls past events last with
  | nil =>
    obtain ⟨rfl, rfl⟩ := yields_pure.mp h
    rw [List.append_nil, List.append_nil]
    exact .inl ⟨last, done, rfl⟩
  | cons sql rest ih =>
    obtain ⟨step, result', later, rfl, hstep, hlater⟩ := yields_bind.mp h
    rcases runStep_cases hstep with ⟨asked, p, outcome, prepared, rfl, rfl⟩ | ⟨refusal, fails, rfl⟩
    · have := ih (done.snoc prepared outcome) hlater
      simp only [List.append_assoc, List.cons_append, List.nil_append] at this ⊢
      rcases this with all | ⟨more, bad, later, refusal, rfl, stops, rfl⟩
      · exact .inl all
      · exact .inr ⟨sql :: more, bad, later, refusal, rfl, stops, rfl⟩
    · obtain ⟨rfl, rfl⟩ := yields_pure.mp hlater
      rw [List.append_nil]
      refine .inr ⟨[], sql, rest, refusal, rfl, ?_, rfl⟩
      rw [List.append_nil]
      exact ⟨past, step, last, done, fails, rfl⟩

end Row

/-! ### What is called -/

/-- The event is a question to the authorizer, or hands a statement to the transaction. -/
def Steps (account : String) (e : Event) : Prop := e.Asks account ∨ e.handed?.isSome

section Calls

variable {sqls : List String} {events : List Event} {last : Option (Prepared × Outcome)}

theorem handed_append (events events' : List Event) :
    handed (events ++ events') = handed events ++ handed events' :=
  List.filterMap_append

theorem handed_of_asks {name : String} (h : ∀ e ∈ events, e.Asks name) : handed events = [] := by
  refine List.filterMap_eq_nil_iff.mpr fun e he => ?_
  obtain ⟨q, hq⟩ := h e he
  rw [Event.handed?, hq]

/-- What happens to a statement that is prepared and handed on. -/
theorem calls_of_handing {sql : String} {asked : List Event} {p : Prepared}
    (prepared : (prepare g.policy (template.forStatement sql) account).Yields asked (.ok p))
    (answer : Except ExecutionError Outcome) :
    handed (asked ++ [handing template sql p answer]) = [sql] ∧
      ∀ e ∈ asked ++ [handing template sql p answer], Steps account.name e := by
  have asks := asks_of_prepare prepared
  constructor
  · rw [handed_append, handed_of_asks asks]
    rfl
  · intro e he
    rcases List.mem_append.mp he with he | he
    · exact .inl (asks e he)
    · rw [List.mem_singleton.mp he]
      exact .inr rfl

theorem Done.calls (done : Done g template account sqls events last) :
    handed events = sqls ∧ ∀ e ∈ events, Steps account.name e := by
  induction done with
  | nil => exact ⟨rfl, List.forall_mem_nil _⟩
  | snoc _ prepared outcome ih =>
    obtain ⟨hhanded, hsteps⟩ := calls_of_handing prepared (.ok outcome)
    refine ⟨by rw [handed_append, ih.1, hhanded], fun e he => ?_⟩
    exact (List.mem_append.mp he).elim (ih.2 e) (hsteps e)

theorem Fails.calls {sql : String} {refusal : Refusal}
    (fails : Fails g template account sql events refusal) :
    handed events <+: [sql] ∧ ∀ e ∈ events, Steps account.name e := by
  cases fails with
  | refused refused =>
    have asks := asks_of_prepare refused
    rw [handed_of_asks asks]
    exact ⟨List.nil_prefix, fun e he => .inl (asks e he)⟩
  | broken prepared error =>
    obtain ⟨hhanded, hsteps⟩ := calls_of_handing prepared (.error error)
    rw [hhanded]
    exact ⟨List.prefix_rfl, hsteps⟩

theorem Stops.calls {bad : String} {refusal : Refusal}
    (stops : Stops g template account sqls bad events refusal) :
    handed events <+: sqls ++ [bad] ∧ ∀ e ∈ events, Steps account.name e := by
  obtain ⟨before, failing, last, done, fails, rfl⟩ := stops
  constructor
  · rw [handed_append, done.calls.1]
    exact (List.prefix_append_right_inj _).mpr fails.calls.1
  · intro e he
    exact (List.mem_append.mp he).elim (done.calls.2 e) (fails.calls.2 e)

end Calls

/-! ### The whole batch -/

section Whole

variable {batch : String} {steps : List Event} {ending : Event} {answer : Envelope}

/-- What happens in an open batch. -/
def opened (steps : List Event) (ending : Event) : List Event :=
  ⟨.openBatch, .ok ()⟩ :: (steps ++ [ending])

/-- An open batch that was brought to its end. -/
structure Ended (g : Gateway) (template : Request) (account : AccountContext) (batch : String)
    (steps : List Event) (ending : Event) (answer : Envelope) : Prop where
  only : ∀ e ∈ steps, Steps account.name e
  inOrder : handed steps <+: Text.filledLines batch
  once : ending.1 = .commit ∨ ending.1 = .rollback
  kept : ending.1 = .commit ↔ ∃ last, Done g template account (Text.filledLines batch) steps last
  undone : ending.1 = .rollback ↔ ∃ sqls bad later refusal,
    Text.filledLines batch = sqls ++ bad :: later ∧ Stops g template account sqls bad steps refusal
  answerKept : ∀ last, Done g template account (Text.filledLines batch) steps last →
    (ending = ⟨.commit, .ok ()⟩ ∧
      answer = g.batchEnvelope last (Text.filledLines batch).length ∧ answer.success = true ∧
      Json.Members.get? answer.extra "statements" =
        some (.ofNat (Text.filledLines batch).length)) ∨
    ∃ error, ending = ⟨.commit, .error error⟩ ∧ answer = g.failure (.execution error)
  answerUndone : ∀ sqls bad later refusal, Text.filledLines batch = sqls ++ bad :: later →
    Stops g template account sqls bad steps refusal → answer = g.failure refusal
  unread : ending.1 = .rollback → ∀ more,
    (g.runBatch (batch ++ "\n" ++ more) template account).Yields (opened steps ending) answer

theorem statements_eq_filledLines (batch : String) :
    Gateway.statements batch = Text.filledLines batch := Text.filled_lines batch

theorem batchEnvelope_counts (g : Gateway) (last : Option (Prepared × Outcome)) (count : Nat) :
    (g.batchEnvelope last count).success = true ∧
      Json.Members.get? (g.batchEnvelope last count).extra "statements" =
        some (.ofNat count) := by
  refine ⟨?_, ?_⟩
  · rcases last with _ | ⟨p, outcome⟩ <;> rfl
  · exact (Json.Members.get?_insert ..).trans (if_pos rfl)

theorem not_done_of_stops {sqls later : List String} {bad : String} {refusal : Refusal}
    {last : Option (Prepared × Outcome)}
    (stops : Stops g template account sqls bad steps refusal) :
    ¬ Done g template account (sqls ++ bad :: later) steps last := by
  intro done
  cases (stops.runs later).unique_answer done.runs_all

theorem Ended.of_done {last : Option (Prepared × Outcome)} {committed : Except ExecutionError Unit}
    (done : Done g template account (Text.filledLines batch) steps last)
    (hanswer : (committed = .ok () ∧
        answer = g.batchEnvelope last (Text.filledLines batch).length) ∨
      ∃ error, committed = .error error ∧ answer = g.failure (.execution error)) :
    Ended g template account batch steps ⟨.commit, committed⟩ answer where
  only := done.calls.2
  inOrder := done.calls.1 ▸ List.prefix_rfl
  once := .inl rfl
  kept := iff_of_true rfl ⟨last, done⟩
  undone := iff_of_false nofun fun ⟨_, _, _, _, lines, stops⟩ =>
    not_done_of_stops stops (lines ▸ done)
  answerKept last' done' := by
    cases done.runs_all.unique_answer done'.runs_all
    rcases hanswer with ⟨rfl, rfl⟩ | ⟨error, rfl, rfl⟩
    · exact .inl ⟨rfl, rfl, batchEnvelope_counts g last _⟩
    · exact .inr ⟨error, rfl, rfl⟩
  answerUndone _ _ _ _ lines stops := absurd (lines ▸ done) (not_done_of_stops stops)
  unread := nofun

theorem runBatch_stops {sqls later : List String} {bad : String} {refusal : Refusal}
    (lines : Text.filledLines batch = sqls ++ bad :: later)
    (stops : Stops g template account sqls bad steps refusal)
    (undone : Except ExecutionError Unit) :
    (g.runBatch batch template account).Yields (opened steps ⟨.rollback, undone⟩)
      (g.failure refusal) := by
  refine yields_ask.mpr ⟨.ok (), _, rfl, ?_⟩
  refine yields_bind.mpr ⟨steps, .error refusal, _, rfl, ?_, ?_⟩
  · rw [statements_eq_filledLines, lines]
    exact stops.runs later
  · exact yields_ask.mpr ⟨undone, [], rfl, .done _⟩

theorem Ended.of_stops {sqls later : List String} {bad : String} {refusal : Refusal}
    (lines : Text.filledLines batch = sqls ++ bad :: later)
    (stops : Stops g template account sqls bad steps refusal)
    (undone : Except ExecutionError Unit) :
    Ended g template account batch steps ⟨.rollback, undone⟩ (g.failure refusal) where
  only := stops.calls.2
  inOrder := by
    rw [lines, List.append_cons]
    exact stops.calls.1.trans (List.prefix_append _ _)
  once := .inr rfl
  kept := iff_of_false nofun fun ⟨_, all⟩ => not_done_of_stops stops (lines ▸ all)
  undone := iff_of_true rfl ⟨sqls, bad, later, refusal, lines, stops⟩
  answerKept _ all := absurd (lines ▸ all) (not_done_of_stops stops)
  answerUndone sqls' bad' later' refusal' lines' stops' := by
    have runs' := stops'.runs later'
    rw [← lines', lines] at runs'
    cases (stops.runs later).unique_answer runs'
    rfl
  unread _ more := by
    have longer : Text.filledLines (batch ++ "\n" ++ more) =
        sqls ++ bad :: (later ++ Text.filledLines more) := by
      rw [Text.filledLines_append, lines, List.append_assoc]
      rfl
    exact runBatch_stops longer stops undone

/-- **Batches are atomic**: a batch that cannot be opened does nothing else. An open one hands
a first part of its statements to the transaction, in order, and then ends it once: it is
kept if and only if all statements were done, and answered like the last one unless keeping
fails; it is undone if and only if one of them failed, and answered by that failure, whatever
comes of the undoing and whatever stands behind. -/
theorem atomic {events : List Event}
    (h : (g.runBatch batch template account).Yields events answer) :
    (∃ error, events = [⟨.openBatch, .error error⟩] ∧
      answer = g.failure (.execution error)) ∨
    ∃ steps ending, events = opened steps ending ∧
      Ended g template account batch steps ending answer := by
  obtain ⟨begun, rest, rfl, hrest⟩ := yields_ask.mp h
  cases begun with
  | error error =>
    obtain ⟨rfl, rfl⟩ := yields_pure.mp hrest
    exact .inl ⟨error, rfl, rfl⟩
  | ok _ =>
    obtain ⟨steps, result, last, rfl, hsteps, hlast⟩ := yields_bind.mp hrest
    rw [statements_eq_filledLines] at hsteps hlast
    refine .inr ?_
    rcases runSteps_cases .nil hsteps with
      ⟨last', done, rfl⟩ | ⟨sqls, bad, later, refusal, lines, stops, rfl⟩
    · obtain ⟨committed, nothing, rfl, hend⟩ := yields_ask.mp hlast
      cases committed with
      | error error =>
        obtain ⟨rfl, rfl⟩ := yields_pure.mp hend
        exact ⟨steps, _, rfl, .of_done done (.inr ⟨error, rfl, rfl⟩)⟩
      | ok _ =>
        obtain ⟨rfl, rfl⟩ := yields_pure.mp hend
        exact ⟨steps, _, rfl, .of_done done (.inl ⟨rfl, rfl⟩)⟩
    · obtain ⟨undone, nothing, rfl, hend⟩ := yields_ask.mp hlast
      obtain ⟨rfl, rfl⟩ := yields_pure.mp hend
      exact ⟨steps, _, rfl, .of_stops lines stops undone⟩

/-- A batch with lines of all kinds, of which the second one that is not blank is refused. -/
def haltingBatch : String := "  SELECT 1\r\n \nSELECT 2;\nSELECT 3"

theorem haltingBatch_atomic :
    ((({} : Gateway).runBatch haltingBatch { sql := "" } ⟨"demo", none⟩).transcript
        agreeable ()).map (·.1) =
      [.openBatch, .executeInBatch "SELECT 1" { kind := .query }, .rollback] ∧
    ∃ events answer,
      (({} : Gateway).runBatch haltingBatch { sql := "" } ⟨"demo", none⟩).Yields events answer ∧
      ((∃ error, events = [⟨.openBatch, .error error⟩] ∧
        answer = ({} : Gateway).failure (.execution error)) ∨
      ∃ steps ending, events = opened steps ending ∧
        Ended {} { sql := "" } ⟨"demo", none⟩ haltingBatch steps ending answer) :=
  ⟨by decide +kernel, _, _, yields_transcript agreeable _ (),
    atomic (yields_transcript agreeable _ ())⟩

end Whole

end Batch

end QueryGateway
