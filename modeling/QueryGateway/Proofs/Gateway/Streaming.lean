import QueryGateway.Proofs.Gateway.Backstage

/-! Streams beside single statements.

Only a read that passes the gate is streamed. All else that is to be streamed runs alone: the
same is asked in the same order, the gate once, and the envelope is the same
(`stream_as_single_but_reads`). -/
namespace QueryGateway

open Dialogue

/-! ### Behind the gate -/

namespace Gateway

/-- What a request for a stream leads to behind its gate. -/
def streamBehind (g : Gateway) (r : Request) : Except Refusal Prepared → Consultation StreamAnswer
  | .error refusal => return .envelope (g.failure refusal)
  | .ok p => do
    if p.operation = .read then return .rows (← (Call.stream p.sql (r.options .query)).put)
    else return .envelope (g.settle (← g.runPrepared r p))

variable (g : Gateway) (r : Request) (account : AccountContext)

theorem openStream_eq :
    g.openStream r account = prepare g.policy r account >>= g.streamBehind r :=
  bind_congr fun result => by cases result <;> rfl

end Gateway

/-- The gate has let a read pass. -/
def AcceptedRead (gate : Except Refusal Prepared) : Prop := ∃ p, gate = .ok p ∧ p.operation = .read

section Behind

variable {g : Gateway} {r : Request} {gate : Except Refusal Prepared}

/-- Unless a read was accepted, a stream and a single statement go on in the same way. -/
theorem streamBehind_eq_singleBehind (other : ¬ AcceptedRead gate) :
    g.streamBehind r gate = StreamAnswer.envelope <$> g.singleBehind r gate := by
  cases gate with
  | error => rfl
  | ok p =>
    have plain : p.operation ≠ .read := fun read => other ⟨p, rfl, read⟩
    rw [Gateway.streamBehind, if_neg plain, Gateway.singleBehind, map_bind]
    rfl

/-- An accepted read is streamed, and that is all. -/
theorem streamBehind_of_read {σ : Type} (reply : (c : Call) → σ → c.Answer × σ) {p : Prepared}
    (read : p.operation = .read) (s : σ) :
    let call := Call.stream p.sql (r.options .query)
    (g.streamBehind r (.ok p)).run reply s = (.rows (reply call s).1, (reply call s).2) ∧
      (g.streamBehind r (.ok p)).transcript reply s = [⟨call, (reply call s).1⟩] := by
  rw [Gateway.streamBehind, if_pos read]
  exact ⟨rfl, rfl⟩

end Behind

/-! ### The two modes -/

section Modes

variable {σ : Type} (reply : (c : Call) → σ → c.Answer × σ) (g : Gateway) (r : Request)
  (account : AccountContext) (s : σ)

theorem openStream_of_read (accepted : AcceptedRead ((prepare g.policy r account).run reply s).1) :
    ∃ rows, ((g.openStream r account).run reply s).1 = .rows rows ∧
      (g.openStream r account).transcript reply s =
        (prepare g.policy r account).transcript reply s ++
          [⟨.stream r.sql (r.options .query), rows⟩] := by
  obtain ⟨p, passes, read⟩ := accepted
  have prepared := yields_transcript reply (prepare g.policy r account) s
  rw [passes] at prepared
  rw [Gateway.openStream_eq, run_bind, transcript_bind, passes,
    ← (inspect_of_prepare prepared).1]
  obtain ⟨streamed, alone⟩ := streamBehind_of_read (g := g) (r := r) reply read
    ((prepare g.policy r account).run reply s).2
  rw [streamed, alone]
  exact ⟨_, rfl, rfl⟩

theorem openStream_of_other
    (other : ¬ AcceptedRead ((prepare g.policy r account).run reply s).1) :
    (g.openStream r account).run reply s =
        (.envelope ((g.runSingle r account).run reply s).1,
          ((g.runSingle r account).run reply s).2) ∧
      (g.openStream r account).transcript reply s =
        (g.runSingle r account).transcript reply s := by
  rw [Gateway.openStream_eq, Gateway.runSingle_eq, run_bind, run_bind, transcript_bind,
    transcript_bind, streamBehind_eq_singleBehind other, run_map, transcript_map]
  exact ⟨rfl, rfl⟩

/-- A stream passes the gate once. -/
theorem questions_of_openStream :
    questions ((g.openStream r account).transcript reply s) =
      (prepare g.policy r account).transcript reply s := by
  by_cases accepted : AcceptedRead ((prepare g.policy r account).run reply s).1
  · obtain ⟨rows, _, asked⟩ := openStream_of_read reply g r account s accepted
    rw [asked, questions_append,
      questions_eq_self (only_authorizer_prepare g.policy r account _ _ (yields_transcript ..))]
    exact List.append_nil _
  · rw [(openStream_of_other reply g r account s accepted).2]
    exact questions_of_runSingle g r account reply s

end Modes

/-- **Streaming differs from single statements for accepted reads only.** Rows are answered
exactly if the gate lets a read pass; then the database is asked once, to stream the text of
the request, and nobody else behind the gate. Otherwise the envelope is that of the statement
alone, the report on memory apart, and the same is asked in the same order. Either way the
questions to the authorizer are those of one passage through the gate, and none comes twice. -/
theorem stream_as_single_but_reads {σ : Type} (reply : (c : Call) → σ → c.Answer × σ)
    (g : Gateway) (memory : Option String) (r : Request) (account : AccountContext) (s : σ) :
    let gate := prepare g.policy r account
    let stream := g.openStream r account
    let single := (g.reporting memory).runSingle r account
    ((∃ rows, (stream.run reply s).1 = .rows rows) ↔ AcceptedRead (gate.run reply s).1) ∧
    (∀ rows, (stream.run reply s).1 = .rows rows → stream.transcript reply s =
      gate.transcript reply s ++ [⟨.stream r.sql (r.options .query), rows⟩]) ∧
    (∀ e, (stream.run reply s).1 = .envelope e →
      e = g.finish (single.run reply s).1 ∧ (stream.run reply s).2 = (single.run reply s).2 ∧
      stream.transcript reply s = single.transcript reply s) ∧
    questions (stream.transcript reply s) = gate.transcript reply s ∧
    ((questions (stream.transcript reply s)).map (·.1)).Nodup := by
  intro gate stream single
  have once : questions (stream.transcript reply s) = gate.transcript reply s :=
    questions_of_openStream reply g r account s
  have nodup : ((gate.transcript reply s).map (·.1)).Nodup := by
    obtain ⟨names, known, requireWrite, nodup, calls⟩ :=
      calls_of_prepare (yields_transcript reply gate s)
    rw [calls]
    exact nodup.map fun m n same => by cases same; rfl
  by_cases accepted : AcceptedRead (gate.run reply s).1
  · obtain ⟨rows, answer, asked⟩ := openStream_of_read reply g r account s accepted
    refine ⟨iff_of_true ⟨rows, answer⟩ accepted, fun rows' answer' => ?_, fun e answer' => ?_,
      once, once ▸ nodup⟩
    · cases answer.symm.trans answer'
      exact asked
    · cases answer.symm.trans answer'
  · obtain ⟨answer, asked⟩ := openStream_of_other reply g r account s accepted
    obtain ⟨envelope, left, same⟩ := g.runSingle_but_memory memory reply r account s
    have enveloped := congrArg Prod.fst answer
    refine ⟨iff_of_false (fun ⟨rows, answer'⟩ => ?_) accepted, fun rows answer' => ?_,
      fun e answer' => ⟨?_, (congrArg Prod.snd answer).trans left, asked.trans same⟩,
      once, once ▸ nodup⟩
    · cases enveloped.symm.trans answer'
    · cases enveloped.symm.trans answer'
    · cases enveloped.symm.trans answer'
      exact envelope

end QueryGateway
