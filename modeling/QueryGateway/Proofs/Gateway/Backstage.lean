import QueryGateway.Proofs.Gateway.Course

/-! The authorizer, and all that is behind it.

The gate of a statement asks the authorizer and nobody else, and behind the gate the
authorizer is not asked. Where the authorizer answers from a state of its own, the gate
therefore leaves everybody else alone (`run_gate`), and what is behind it leaves the authorizer
alone (`run_behind`). Two cleared statements that agree in what is run and kept lead to the same
calls, whatever else their envelopes say (`Counterparts`). -/
namespace QueryGateway

open Dialogue

/-! ### Questions to the authorizer -/

/-- Whether a call is a question to the authorizer. -/
def Call.asksAuthorizer : Call → Bool
  | .authorize .. => true
  | _ => false

/-- The questions to the authorizer, with their answers. -/
def questions (events : List Event) : List Event := events.filter (·.1.asksAuthorizer)

/-- All that is asked of the others, with their answers. -/
def behindGate (events : List Event) : List Event := events.filter (!·.1.asksAuthorizer)

section Questions

variable {g : Gateway} {r : Request} {p : Prepared} {account : AccountContext}
  {events events' : List Event}

@[simp] theorem questions_append :
    questions (events ++ events') = questions events ++ questions events' :=
  List.filter_append ..

@[simp] theorem behindGate_append :
    behindGate (events ++ events') = behindGate events ++ behindGate events' :=
  List.filter_append ..

theorem Event.Asks.asksAuthorizer {name : String} {e : Event} (h : e.Asks name) :
    e.1.asksAuthorizer = true := by
  obtain ⟨q, hq⟩ := h
  rw [hq]
  rfl

theorem only_authorizer_prepare (policy : Policy) (r : Request) (account : AccountContext) :
    (prepare policy r account).Only fun c => c.asksAuthorizer = true :=
  fun _ _ h e he => (asks_of_prepare h e he).asksAuthorizer

theorem Course.not_asksAuthorizer {e : Envelope} (h : Course g r p events e) :
    ∀ e ∈ events, e.1.asksAuthorizer = false := by
  cases h with
  | change | read | served => exact List.forall_mem_singleton.mpr rfl
  | failed => exact List.forall_mem_cons.mpr ⟨rfl, List.forall_mem_singleton.mpr rfl⟩
  | kept =>
    exact List.forall_mem_cons.mpr
      ⟨rfl, List.forall_mem_cons.mpr ⟨rfl, List.forall_mem_singleton.mpr rfl⟩⟩

theorem only_others_runPrepared (g : Gateway) (r : Request) (p : Prepared) :
    (g.runPrepared r p).Only fun c => c.asksAuthorizer = false :=
  fun _ _ h => (course_of_runPrepared h).not_asksAuthorizer

theorem questions_eq_self (h : ∀ e ∈ events, e.1.asksAuthorizer = true) :
    questions events = events :=
  List.filter_eq_self.mpr h

theorem questions_eq_nil (h : ∀ e ∈ events, e.1.asksAuthorizer = false) :
    questions events = [] :=
  List.filter_eq_nil_iff.mpr fun e he => by simp [h e he]

theorem behindGate_eq_nil (h : ∀ e ∈ events, e.1.asksAuthorizer = true) :
    behindGate events = [] :=
  List.filter_eq_nil_iff.mpr fun e he => by simp [h e he]

end Questions

/-! ### The questions of a gate -/

section Gate

variable {account : String} {credentials : Credentials} {requireWrite : Bool}
  {known names : List String} {last : Option Verdict} {events : List Event}

/-- The questions are asked one after the other, and none is left out. -/
theorem calls_of_authorizeAll {result : Except Denial (Option Verdict)}
    (h : (authorizeAll account credentials requireWrite known names last).Yields events result) :
    events.map (·.1) <+: names.map fun relation =>
      .authorize account ⟨relation, credentials, requireWrite, known⟩ := by
  obtain ⟨asked, _, ⟨rfl, rfl, _⟩ | ⟨relation, verdict, rest, _, rfl, rfl, _⟩⟩ :=
    authorizeAll_yields_iff.mp h
  · rw [List.map_map, List.map_map]
    exact List.prefix_rfl
  · simp only [List.map_append, List.map_map]
    exact (List.prefix_append_right_inj _).mpr ((List.prefix_cons_inj _).mpr List.nil_prefix)

/-- The gate asks for the account that a request comes from, with the credentials that it comes
with, about one relation after the other, and about none twice. -/
theorem calls_of_prepare {policy : Policy} {r : Request} {account : AccountContext}
    {result : Except Refusal Prepared} (h : (prepare policy r account).Yields events result) :
    ∃ names known : List String, ∃ requireWrite, names.Nodup ∧
      events.map (·.1) = names.map fun relation =>
        .authorize account.name ⟨relation, r.credentials, requireWrite, known⟩ := by
  rcases prepare_cases h with ⟨_, _, rfl, _⟩ | ⟨found, checked, hfound, hchecked, _⟩
  · exact ⟨[], [], false, List.nodup_nil, rfl⟩
  · have asked := List.prefix_iff_eq_take.mp (calls_of_authorizeAll hchecked)
    rw [← List.map_take] at asked
    obtain ⟨_, hset⟩ := Tree.extract_eq_ok.mp (inspect_eq_ok.mp hfound).2.2.1
    have nodup : found.relations.names.Nodup := by
      rw [hset]
      exact (RelationSet.collects_ofList _).nodup
    exact ⟨_, _, _, nodup.sublist (List.take_sublist ..), asked⟩

end Gate

/-! ### A single statement -/

/-- What a request for one statement leads to behind its gate. -/
def Gateway.singleBehind (g : Gateway) (r : Request) :
    Except Refusal Prepared → Consultation Envelope
  | .error refusal => return g.failure refusal
  | .ok p => return g.settle (← g.runPrepared r p)

section Single

variable (g : Gateway) (r : Request) (account : AccountContext)

theorem Gateway.runSingle_eq :
    g.runSingle r account = prepare g.policy r account >>= g.singleBehind r :=
  bind_congr fun result => by cases result <;> rfl

theorem only_others_singleBehind (gate : Except Refusal Prepared) :
    (g.singleBehind r gate).Only fun c => c.asksAuthorizer = false := by
  cases gate with
  | error => exact only_pure _
  | ok p => exact (only_others_runPrepared g r p).bind fun _ => only_pure _

/-- A single statement passes the gate once. -/
theorem questions_of_runSingle {σ : Type} (reply : (c : Call) → σ → c.Answer × σ) (s : σ) :
    questions ((g.runSingle r account).transcript reply s) =
      (prepare g.policy r account).transcript reply s := by
  rw [Gateway.runSingle_eq, transcript_bind, questions_append,
    questions_eq_self (only_authorizer_prepare g.policy r account _ _ (yields_transcript ..)),
    questions_eq_nil (only_others_singleBehind g r _ _ _ (yields_transcript ..)),
    List.append_nil]

end Single

/-! ### An authorizer of its own -/

section Apart

variable {α β γ : Type}

/-- How the authorizer and the others answer, each side from a state of its own. -/
def answerApart (authorize : String → Question → α → Verdict × α)
    (behind : (c : Call) → β → c.Answer × β) : (c : Call) → α × β → c.Answer × (α × β)
  | .authorize name q, (a, b) => ((authorize name q a).1, ((authorize name q a).2, b))
  | c, (a, b) => ((behind c b).1, (a, (behind c b).2))

variable (authorize : String → Question → α → Verdict × α)
  (behind : (c : Call) → β → c.Answer × β)

theorem answerApart_other {c : Call} (h : c.asksAuthorizer = false) (a : α) (b : β) :
    answerApart authorize behind c (a, b) = ((behind c b).1, (a, (behind c b).2)) := by
  cases c <;> first | rfl | cases h

/-- What asks the authorizer alone ends the same and asks the same whatever the state of the
others is, and leaves it as it is. -/
theorem run_gate {d : Consultation γ} (h : d.Only fun c => c.asksAuthorizer = true) (a : α) :
    ∃ x a' events, ∀ b, d.run (answerApart authorize behind) (a, b) = (x, (a', b)) ∧
      d.transcript (answerApart authorize behind) (a, b) = events := by
  induction d generalizing a with
  | done x => exact ⟨x, a, [], fun _ => ⟨rfl, rfl⟩⟩
  | ask c next ih =>
    cases c with
    | authorize name q =>
      obtain ⟨x, a', events, ran⟩ := ih (authorize name q a).1 (h.next _) (authorize name q a).2
      refine ⟨x, a', ⟨.authorize name q, (authorize name q a).1⟩ :: events, fun b => ?_⟩
      exact ⟨(ran b).1, congrArg (List.cons _) (ran b).2⟩
    | _ => cases h.first agreeable ()

/-- What asks no authorizer is answered by the others alone. -/
theorem run_behind {d : Consultation γ} (h : d.Only fun c => c.asksAuthorizer = false) (a : α)
    (b : β) :
    d.run (answerApart authorize behind) (a, b) =
        ((d.run behind b).1, (a, (d.run behind b).2)) ∧
      d.transcript (answerApart authorize behind) (a, b) = d.transcript behind b := by
  induction d generalizing b with
  | done x => exact ⟨rfl, rfl⟩
  | ask c next ih =>
    have answered := answerApart_other authorize behind (h.first behind b) a b
    obtain ⟨ran, asked⟩ := ih (behind c b).1 (h.next _) (behind c b).2
    rw [run, run, transcript, transcript, answered]
    exact ⟨ran, congrArg _ asked⟩

/-- What is behind a gate is answered by the others alone. -/
theorem run_behind_gate {δ : Type} {d : Consultation γ} {f : γ → Consultation δ} {x : γ} {a a' : α}
    {b : β} {asked : List Event}
    (passed : d.run (answerApart authorize behind) (a, b) = (x, (a', b)) ∧
      d.transcript (answerApart authorize behind) (a, b) = asked)
    (h : (f x).Only fun c => c.asksAuthorizer = false) :
    (d >>= f).run (answerApart authorize behind) (a, b) =
        (((f x).run behind b).1, (a', ((f x).run behind b).2)) ∧
      (d >>= f).transcript (answerApart authorize behind) (a, b) =
        asked ++ (f x).transcript behind b := by
  obtain ⟨ran, rfl⟩ := passed
  rw [run_bind, transcript_bind, ran]
  obtain ⟨answer, events⟩ := run_behind authorize behind h a' b
  exact ⟨answer, congrArg _ events⟩

end Apart

/-- An authorizer that grants everything and counts its questions. -/
def countingGrants (_ : String) (_ : Question) (n : Nat) : Verdict × Nat := (.granted, n + 1)

/-! ### Runs that differ in what their envelopes say -/

/-- Two cleared statements that are run and kept alike, and whose successes differ by a function. -/
structure Counterparts (f : Envelope → Envelope) (g g' : Gateway) (r r' : Request)
    (p p' : Prepared) : Prop where
  sql : p'.sql = p.sql
  operation : p'.operation = p.operation
  lifetime : r'.lifetime = r.lifetime
  options : r'.options = r.options
  longest : g'.longestLifetime = g.longestLifetime
  success : ∀ o cache, g'.success o p'.verdict cache = f (g.success o p.verdict cache)

namespace Counterparts

variable {f : Envelope → Envelope} {g g' : Gateway} {r r' : Request} {p p' : Prepared}

theorem runDirectly (h : Counterparts f g g' r r' p p') (kind : ExecutionKind) :
    g'.runDirectly r' p' kind = Except.map f <$> g.runDirectly r p kind := by
  unfold Gateway.runDirectly
  rw [map_bind, h.sql, h.options]
  refine bind_congr fun result => ?_
  cases result with
  | error => rfl
  | ok outcome =>
    dsimp only
    rw [h.success]
    rfl

theorem runAndKeep (h : Counterparts f g g' r r' p p') (key : Cache.Key) :
    g'.runAndKeep r' p' key = Except.map f <$> g.runAndKeep r p key := by
  unfold Gateway.runAndKeep
  rw [map_bind, h.sql, h.options]
  refine bind_congr fun result => ?_
  cases result with
  | error => rfl
  | ok outcome =>
    cases kept : r.lifetime.isZero <;>
      simp only [Cache.ttlFor?, h.lifetime, h.longest, kept, h.success] <;> rfl

theorem served (h : Counterparts f g g' r r' p p') (hit : Option Cache.Hit) :
    hit.bind (g'.served p') = (hit.bind (g.served p)).map f := by
  cases hit with
  | none => rfl
  | some hit =>
    rw [Option.bind_some, Option.bind_some, Gateway.served, Gateway.served, Option.map_map]
    exact congrArg (Option.map · _) (funext fun o => h.success o _)

theorem runRead (h : Counterparts f g g' r r' p p') :
    g'.runRead r' p' = Except.map f <$> g.runRead r p := by
  unfold Gateway.runRead Request.wantsCache
  rw [h.lifetime]
  split
  · rw [map_bind, h.sql]
    refine bind_congr fun found => ?_
    rw [h.served]
    cases (Cache.hitOf found).bind (g.served p) with
    | none => exact h.runAndKeep _
    | some e => rfl
  · exact h.runDirectly .query

theorem runPrepared (h : Counterparts f g g' r r' p p') :
    g'.runPrepared r' p' = Except.map f <$> g.runPrepared r p := by
  unfold Gateway.runPrepared
  rw [h.operation]
  split
  · exact h.runRead
  · exact h.runDirectly .mutation

end Counterparts

namespace Gateway

/-- The gateway with another report of its use of memory. -/
def reporting (g : Gateway) (memory : Option String) : Gateway := { g with memoryUsage := memory }

variable (g : Gateway) (memory : Option String)

theorem counterparts_reporting (r : Request) (p : Prepared) :
    Counterparts (g.reporting memory).finish g (g.reporting memory) r r p p :=
  ⟨rfl, rfl, rfl, rfl, rfl, fun _ _ => rfl⟩

/-- Another report on memory changes the report and nothing else. -/
theorem runSingle_reporting (r : Request) (account : AccountContext) :
    (g.reporting memory).runSingle r account =
      (g.reporting memory).finish <$> g.runSingle r account := by
  unfold runSingle
  rw [map_bind]
  refine bind_congr fun result => ?_
  cases result with
  | error => rfl
  | ok p =>
    dsimp only
    rw [map_bind, (g.counterparts_reporting memory r p).runPrepared, bind_map_left]
    refine bind_congr fun result => ?_
    cases result <;> rfl

/-- But for the report, a request is answered the same whatever is reported. -/
theorem runSingle_but_memory {σ : Type} (reply : (c : Call) → σ → c.Answer × σ) (r : Request)
    (account : AccountContext) (s : σ) :
    let single := (g.reporting memory).runSingle r account
    ((g.runSingle r account).run reply s).1 = g.finish (single.run reply s).1 ∧
      ((g.runSingle r account).run reply s).2 = (single.run reply s).2 ∧
      (g.runSingle r account).transcript reply s = single.transcript reply s := by
  intro single
  have other : single = (g.reporting memory).finish <$> g.runSingle r account :=
    g.runSingle_reporting memory r account
  have own : g.runSingle r account = g.finish <$> g.runSingle r account :=
    g.runSingle_reporting g.memoryUsage r account
  rw [other, run_map, transcript_map]
  refine ⟨?_, rfl, rfl⟩
  conv_lhs => rw [own, run_map]
  rfl

end Gateway

end QueryGateway
