import QueryGateway.Proofs.Gateway.StoreCalls

/-! The gate as a search for the first denial.

An authorizer may answer every question differently, and one question differently each time.
What it would be told about all relations of a statement, one after the other, decides
(`first_denial_decides`): up to the first denial the gate asks just these questions, and ends
with it; without one it asks them all, and ends with the last answer. -/
namespace QueryGateway

open Dialogue

/-- The questions about all relations of a set, in their order. -/
def RelationSet.inquiries (set : RelationSet) (account : String) (credentials : Credentials)
    (requireWrite : Bool) : List Call :=
  set.names.map fun relation => .authorize account ⟨relation, credentials, requireWrite, set.names⟩

section Gate

variable {σ : Type} {reply : (c : Call) → σ → c.Answer × σ} {s : σ} {account : String}
  {set : RelationSet} {credentials : Credentials} {requireWrite : Bool}

/-- A run that asks about the first relations is told about them what it would be told if it
asked about all. -/
theorem transcript_eq_take {α : Type} {d : Consultation α} {asked : List (String × Verdict)}
    {rest : List String} (names : set.names = asked.map (·.1) ++ rest)
    (events : d.transcript reply s =
      asked.map (answered account credentials requireWrite set.names)) :
    d.transcript reply s =
      (replies reply (set.inquiries account credentials requireWrite) s).take asked.length := by
  -- A world replies alike to the same questions, so it is enough to compare the questions.
  have calls : (d.transcript reply s).map (·.1) =
      (set.inquiries account credentials requireWrite).take asked.length := by
    rw [events, RelationSet.inquiries, ← List.map_take, List.map_map]
    have first : set.names.take asked.length = asked.map (·.1) := by
      rw [names, List.take_left' (List.length_map _)]
    rw [first, List.map_map]
    rfl
  rw [← replies_take, ← calls]
  exact transcript_eq_replies reply d s

/-- A run that asks about all relations is told all. -/
theorem transcript_of_all {α : Type} {d : Consultation α} {asked : List (String × Verdict)}
    (names : set.names = asked.map (·.1))
    (events : d.transcript reply s =
      asked.map (answered account credentials requireWrite set.names)) :
    d.transcript reply s =
      replies reply (set.inquiries account credentials requireWrite) s := by
  have whole : (set.inquiries account credentials requireWrite).take asked.length =
      set.inquiries account credentials requireWrite :=
    List.take_of_length_le (by simp [RelationSet.inquiries, names])
  have first : set.names = asked.map (·.1) ++ [] := by rw [names, List.append_nil]
  rw [transcript_eq_take first events, ← replies_take, whole]

/-- A run that asks about the first relations and one more is told one answer more. -/
theorem transcript_of_last {α : Type} {d : Consultation α} {asked : List (String × Verdict)}
    {relation : String} {verdict : Verdict} {rest : List String}
    (names : set.names = asked.map (·.1) ++ relation :: rest)
    (events : d.transcript reply s = (asked ++ [(relation, verdict)]).map
      (answered account credentials requireWrite set.names)) :
    let told := replies reply (set.inquiries account credentials requireWrite) s
    d.transcript reply s = told.take (asked.length + 1) ∧
      told.take asked.length =
        asked.map (answered account credentials requireWrite set.names) ∧
      told[asked.length]? =
        some (answered account credentials requireWrite set.names (relation, verdict)) := by
  intro told
  have first : d.transcript reply s = told.take (asked.length + 1) := by
    have asks : set.names = (asked ++ [(relation, verdict)]).map (·.1) ++ rest := by simp [names]
    rw [transcript_eq_take asks events, List.length_append]
    rfl
  refine ⟨first, ?_, ?_⟩
  · rw [← Nat.min_eq_left (Nat.le_succ asked.length), ← List.take_take, ← first, events]
    simp
  · rw [← List.getElem?_take_of_lt (Nat.lt_succ_self asked.length), ← first, events]
    simp

theorem granted_of_forall {asked : List (String × Verdict)}
    (all : ∀ a ∈ asked, a.2.success = true) :
    ∀ e ∈ asked.map (answered account credentials requireWrite set.names), e.Granted := by
  intro e he
  obtain ⟨a, ha, rfl⟩ := List.mem_map.mp he
  exact all a ha

/-- A statement that a relation is denied to is refused with the verdict on that relation. -/
theorem prepare_of_denied {policy : Policy} {r : Request} {a : AccountContext}
    {found : Inspection} {denial : Denial} (inspected : inspect policy r.sql = .ok found)
    (denied : ((checkRelations a.name found.relations r.credentials
      found.operation.requiresWrite).run reply s).1 = .error denial) :
    ((prepare policy r a).run reply s).1 = .error (.denied denial) := by
  rw [prepare, inspected]
  show ((_ >>= _ : Consultation _).run reply s).1 = _
  rw [run_bind, denied]
  rfl

end Gate

/-- **The gate searches for the first denial.** Take the questions about the relations of a
set in their order, each with the credentials, the kind of access and all the names, and the
answers that the authorizer gives when they are put one after the other. If one of them is a
denial, the gate asks up to the first one and ends with it; otherwise it asks all, and ends with
the last answer, or with none if there are no relations. A request that is turned away with a
denial gets the authorizer's code, and its message or else `Forbidden`. -/
theorem first_denial_decides {σ : Type} (reply : (c : Call) → σ → c.Answer × σ) (s : σ)
    (account : String) (set : RelationSet) (credentials : Credentials) (requireWrite : Bool) :
    let told : List Event := replies reply (set.inquiries account credentials requireWrite) s
    let gate := checkRelations account set credentials requireWrite
    ((∃ i relation verdict, set.names[i]? = some relation ∧
        told[i]? = some (answered account credentials requireWrite set.names (relation, verdict)) ∧
        Verdict.success verdict = false ∧ (∀ e ∈ told.take i, e.Granted) ∧
        gate.transcript reply s = told.take (i + 1) ∧
        (gate.run reply s).1 = .error ⟨relation, verdict⟩) ∨
      ((∀ e ∈ told, e.Granted) ∧ gate.transcript reply s = told ∧
        (gate.run reply s).1 = .ok (lastVerdict told))) ∧
    ((gate.run reply s).1 = .ok none ↔ set.names = []) ∧
    ∀ denial, (gate.run reply s).1 = .error denial →
      ∀ (policy : Policy) (r : Request) (a : AccountContext) (found : Inspection),
        inspect policy r.sql = .ok found →
        checkRelations a.name found.relations r.credentials found.operation.requiresWrite = gate →
        ∃ refusal, ((prepare policy r a).run reply s).1 = .error refusal ∧
          refusal.code = denial.verdict.code ∧
          refusal.message = denial.verdict.message.getD "Forbidden" := by
  intro told gate
  obtain ⟨asked, all, ended⟩ := authorizeAll_yields_iff.mp (yields_transcript reply gate s)
  refine ⟨?_, ?_, ?_⟩
  · rcases ended with ⟨names, events, result⟩ | ⟨relation, verdict, rest, denied, names, events,
      result⟩
    · right
      have whole : gate.transcript reply s = told := transcript_of_all names events
      rw [← whole, events, result, lastVerdict_answered, Option.or_none]
      exact ⟨granted_of_forall all, rfl, rfl⟩
    · left
      obtain ⟨first, before, last⟩ := transcript_of_last names events
      refine ⟨asked.length, relation, verdict, by simp [names], last, denied, ?_, first, result⟩
      rw [before]
      exact granted_of_forall all
  · rcases ended with ⟨names, events, result⟩ | ⟨relation, verdict, rest, denied, names, events,
      result⟩
    · rw [result, names]
      simp
    · rw [result, names]
      simp
  · intro denial denied policy r a found inspected same
    refine ⟨.denied denial, prepare_of_denied inspected ?_, rfl, rfl⟩
    rw [same]
    exact denied

end QueryGateway
