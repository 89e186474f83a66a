import QueryGateway.Proofs.Gateway.Course

/-! What a store in trouble does to a request.

A store may fail, find nothing, or hand out what cannot be read, and may do what it likes with
what it is given. `Alike` relates two computations that differ in nothing but their dealings
with such stores; one induction over it compares their runs (`Alike.companion`). So a
request is answered as by a gateway without a store, and the authorizer and the database
are asked the same (`store_trouble_invisible`). -/
namespace QueryGateway

open Dialogue

/-! ### Stores -/

/-- A store of results with a state of its own; it may answer anything. -/
structure ResultStore (τ : Type) where
  get : Cache.Key → τ → Except Cache.StoreError (Option Cache.Entry) × τ
  put : Cache.Key → List UInt8 → Span → τ → Except Cache.StoreError Unit × τ

/-- The store that keeps nothing. -/
def ResultStore.disabled (now : Instant) : ResultStore Unit where
  get key _ := (.ok (Cache.Store.disabled.get? now key), ())
  put _ _ _ _ := (.ok (), ())

/-- An answer to a lookup of which nothing can be served: an error, nothing, or an entry that
holds no outcome. -/
def Useless : Except Cache.StoreError (Option Cache.Entry) → Prop
  | .error _ => True
  | .ok none => True
  | .ok (some e) => Outcome.ofPayload? e.payload = none

section Answering

variable {σ τ : Type}

/-- How the collaborators answer: the store its calls, the others theirs, each side from a
state of its own. -/
def answerWith (others : (c : Call) → σ → c.Answer × σ) (store : ResultStore τ) :
    (c : Call) → σ × τ → c.Answer × (σ × τ)
  | .lookUp key, (s, t) => ((store.get key t).1, (s, (store.get key t).2))
  | .keep key payload ttl, (s, t) =>
    ((store.put key payload ttl t).1, (s, (store.put key payload ttl t).2))
  | c, (s, t) => ((others c s).1, ((others c s).2, t))

theorem answerWith_other (others : (c : Call) → σ → c.Answer × σ) (store : ResultStore τ)
    {c : Call} (h : c.isStore = false) (s : σ) (t : τ) :
    answerWith others store c (s, t) = ((others c s).1, ((others c s).2, t)) := by
  cases c <;> first | rfl | cases h

/-- What is asked of the others, with their answers. -/
def asked (events : List Event) : List Event := events.filter fun e => !e.1.isStore

/-- Every lookup is answered with something useless. -/
def Unserved (events : List Event) : Prop :=
  ∀ key found, (⟨.lookUp key, found⟩ : Event) ∈ events → Useless found

theorem Unserved.tail {e : Event} {events : List Event} (h : Unserved (e :: events)) :
    Unserved events :=
  fun key found he => h key found (List.mem_cons_of_mem _ he)

theorem unserved_disabled {α : Type} (others : (c : Call) → σ → c.Answer × σ) (now : Instant)
    (d : Consultation α) (s : σ × Unit) :
    Unserved (d.transcript (answerWith others (.disabled now)) s) := by
  intro key found he
  obtain ⟨s', hanswer⟩ := exists_reply he
  dsimp only at hanswer
  rw [hanswer]
  trivial

end Answering

/-! ### Alike but for the store -/

/-- Two computations that ask the others the same and end alike, whatever useless answers
their stores give them. -/
inductive Alike {α : Type} : Consultation α → Consultation α → Prop
  | done (a : α) : Alike (.done a) (.done a)
  | ask {c : Call} (other : c.isStore = false) {next next' : c.Answer → Consultation α}
      (rest : ∀ answer, Alike (next answer) (next' answer)) : Alike (.ask c next) (.ask c next')
  | lookUp {key : Cache.Key} {next next' : (Call.lookUp key).Answer → Consultation α}
      (rest : ∀ found found', Useless found → Useless found' →
        Alike (next found) (next' found')) :
      Alike (.ask (.lookUp key) next) (.ask (.lookUp key) next')
  | keep {key : Cache.Key} {payload : List UInt8} {ttl ttl' : Span}
      {next : (Call.keep key payload ttl).Answer → Consultation α}
      {next' : (Call.keep key payload ttl').Answer → Consultation α}
      (rest : ∀ answer answer', Alike (next answer) (next' answer')) :
      Alike (.ask (.keep key payload ttl) next) (.ask (.keep key payload ttl') next')

namespace Alike

variable {α β : Type}

theorem bind {d d' : Consultation α} {f f' : α → Consultation β} (h : Alike d d')
    (hf : ∀ a, Alike (f a) (f' a)) : Alike (d >>= f) (d' >>= f') := by
  induction h with
  | done a => exact hf a
  | ask other _ ih => exact .ask other ih
  | lookUp _ ih => exact .lookUp ih
  | keep _ ih => exact .keep ih

/-- After a lookup the two go on alike. -/
theorem afterLookUp {key : Cache.Key} {f f' : (Call.lookUp key).Answer → Consultation α}
    (rest : ∀ found found', Useless found → Useless found' → Alike (f found) (f' found')) :
    Alike ((Call.lookUp key).put >>= f) ((Call.lookUp key).put >>= f') :=
  .lookUp rest

theorem put {c : Call} (other : c.isStore = false) : Alike c.put c.put := .ask other .done

/-- Run with stores that serve them nothing, the two end alike, leave the others alike, and
have asked them the same. -/
theorem companion {σ τ τ' : Type} {others : (c : Call) → σ → c.Answer × σ}
    {store : ResultStore τ} {store' : ResultStore τ'} {d d' : Consultation α} (h : Alike d d')
    {s : σ} {t : τ} {t' : τ'} (unserved : Unserved (d.transcript (answerWith others store) (s, t)))
    (unserved' : Unserved (d'.transcript (answerWith others store') (s, t'))) :
    (d.run (answerWith others store) (s, t)).1 = (d'.run (answerWith others store') (s, t')).1 ∧
      (d.run (answerWith others store) (s, t)).2.1 =
        (d'.run (answerWith others store') (s, t')).2.1 ∧
      asked (d.transcript (answerWith others store) (s, t)) =
        asked (d'.transcript (answerWith others store') (s, t')) := by
  induction h generalizing s t t' with
  | done a => exact ⟨rfl, rfl, rfl⟩
  | @ask c other next next' _ ih =>
    have ran := answerWith_other others store other s t
    have ran' := answerWith_other others store' other s t'
    rw [transcript, ran] at unserved ⊢
    rw [transcript, ran'] at unserved' ⊢
    obtain ⟨same, left, questions⟩ := ih _ unserved.tail unserved'.tail
    rw [run, run, ran, ran']
    refine ⟨same, left, ?_⟩
    rw [asked, asked, List.filter_cons_of_pos (by simp [other]),
      List.filter_cons_of_pos (by simp [other])]
    exact congrArg _ questions
  | lookUp _ ih =>
    exact ih _ _ (unserved _ _ (List.mem_cons_self ..)) (unserved' _ _ (List.mem_cons_self ..))
      unserved.tail unserved'.tail
  | keep _ ih => exact ih _ _ unserved.tail unserved'.tail

end Alike

/-! ### A request -/

section Request

variable {g : Gateway} {r : Request} {p : Prepared} {account : AccountContext}

theorem alike_authorizeAll (name : String) (credentials : Credentials) (requireWrite : Bool)
    (known names : List String) (last : Option Verdict) :
    Alike (authorizeAll name credentials requireWrite known names last)
      (authorizeAll name credentials requireWrite known names last) := by
  induction names generalizing last with
  | nil => exact .done _
  | cons relation rest ih =>
    refine (Alike.put rfl).bind fun verdict => ?_
    split
    · exact ih _
    · exact .done _

theorem alike_prepare (policy : Policy) :
    Alike (prepare policy r account) (prepare policy r account) := by
  unfold prepare
  split
  · exact .done _
  · refine (alike_authorizeAll ..).bind fun checked => ?_
    cases checked with
    | error => exact .done _
    | ok verdict =>
      dsimp only
      split
      · exact .done _
      · exact .done _

theorem alike_execute (sql : String) (options : ExecutionOptions) :
    Alike (Gateway.execute sql options) (Gateway.execute sql options) :=
  (Alike.put rfl).bind fun _ => .done _

theorem served_of_useless {found : Except Cache.StoreError (Option Cache.Entry)}
    (h : Useless found) : (Cache.hitOf found).bind (g.served p) = none := by
  match found, h with
  | .error _, _ => rfl
  | .ok none, _ => rfl
  | .ok (some e), h =>
    show (Outcome.ofPayload? e.payload).map _ = none
    rw [show Outcome.ofPayload? e.payload = none from h]
    rfl

/-- The gateway with another limit to how long results are kept. -/
def Gateway.keepingFor (g : Gateway) (longest : Span) : Gateway :=
  { g with longestLifetime := longest }

variable (longest : Span)

theorem alike_runAndKeep (key : Cache.Key) :
    Alike (g.runAndKeep r p key) ((g.keepingFor longest).runAndKeep r p key) := by
  refine (alike_execute ..).bind fun result => ?_
  cases result with
  | error => exact .done _
  | ok outcome =>
    cases kept : r.lifetime.isZero with
    | true =>
      simp only [Cache.ttlFor?, kept, if_true]
      exact .done _
    | false =>
      simp only [Cache.ttlFor?, kept, Bool.false_eq_true, if_false]
      exact .keep fun _ _ => .done _

theorem alike_runRead : Alike (g.runRead r p) ((g.keepingFor longest).runRead r p) := by
  unfold Gateway.runRead
  split
  · refine .afterLookUp fun found found' useless useless' => ?_
    have nothing := served_of_useless (g := g) (p := p) useless
    have nothing' := served_of_useless (g := g.keepingFor longest) (p := p) useless'
    rw [nothing, nothing']
    exact alike_runAndKeep longest _
  · refine (alike_execute ..).bind fun result => ?_
    cases result <;> exact .done _

theorem alike_runSingle : Alike (g.runSingle r account)
    ((g.keepingFor longest).runSingle r account) := by
  refine (alike_prepare g.policy).bind fun result => ?_
  cases result with
  | error => exact .done _
  | ok p =>
    refine Alike.bind ?_ fun _ => .done _
    unfold Gateway.runPrepared
    split
    · exact alike_runRead longest
    · refine (alike_execute ..).bind fun result => ?_
      cases result <;> exact .done _

/-! ### Executions -/

/-- Whether an event is the execution of a statement. -/
def Event.isExecution (e : Event) : Bool :=
  match e.1 with
  | .execute .. => true
  | _ => false

theorem Event.Asks.not_isExecution {name : String} {e : Event} (h : e.Asks name) :
    e.isExecution = false := by
  obtain ⟨q, hq⟩ := h
  rw [isExecution, hq]

theorem Course.countP_isExecution_le {events : List Event} {e : Envelope}
    (h : Course g r p events e) : events.countP Event.isExecution ≤ 1 := by
  cases h <;> simp [List.countP_cons, Event.isExecution]

/-- A request executes a statement once at most. -/
theorem countP_isExecution_le {events : List Event} {e : Envelope}
    (h : (g.runSingle r account).Yields events e) : events.countP Event.isExecution ≤ 1 := by
  have quiet {asked : List Event} {result : Except Refusal Prepared}
      (hprepare : (prepare g.policy r account).Yields asked result) :
      asked.countP Event.isExecution = 0 := by
    rw [List.countP_eq_zero]
    intro e he
    rw [(asks_of_prepare hprepare e he).not_isExecution]
    decide
  rcases runSingle_cases h with ⟨refusal, hprepare, _⟩ | ⟨p, asked, rest, rfl, hprepare, course⟩
  · rw [quiet hprepare]
    decide
  · rw [List.countP_append, quiet hprepare, Nat.zero_add]
    exact course.countP_isExecution_le

end Request

/-- **Trouble with the store never shows.** If nothing that the store answers in the course of
a request can be served, the envelope is that of a gateway without a store; the authorizer
and the database are asked the same with the same answers and left alike, and the database
executes once at most. -/
theorem store_trouble_invisible {σ τ : Type} (others : (c : Call) → σ → c.Answer × σ)
    (store : ResultStore τ) (g : Gateway) (longest : Span) (now : Instant) (r : Request)
    (account : AccountContext) (s : σ) (t : τ)
    (unserved : Unserved ((g.runSingle r account).transcript (answerWith others store) (s, t))) :
    let without := (g.keepingFor longest).runSingle r account
    ((g.runSingle r account).run (answerWith others store) (s, t)).1 =
        (without.run (answerWith others (.disabled now)) (s, ())).1 ∧
      ((g.runSingle r account).run (answerWith others store) (s, t)).2.1 =
        (without.run (answerWith others (.disabled now)) (s, ())).2.1 ∧
      asked ((g.runSingle r account).transcript (answerWith others store) (s, t)) =
        asked (without.transcript (answerWith others (.disabled now)) (s, ())) ∧
      ((g.runSingle r account).transcript (answerWith others store) (s, t)).countP
        Event.isExecution ≤ 1 := by
  intro without
  have alike : Alike (g.runSingle r account) without := alike_runSingle longest
  obtain ⟨envelope, left, questions⟩ :=
    alike.companion unserved (unserved_disabled others now without (s, ()))
  exact ⟨envelope, left, questions, countP_isExecution_le (yields_transcript _ _ _)⟩

/-- Collaborators who grant every access and answer every statement with its text. -/
def obliging : (c : Call) → Unit → c.Answer × Unit
  | .authorize .., s => (.granted, s)
  | .lookUp _, s => (.ok none, s)
  | .keep .., s => (.ok (), s)
  | .execute sql _, s => (.ok (.rows (.string sql)), s)
  | .openBatch, s => (.ok (), s)
  | .executeInBatch .., s => (.ok {}, s)
  | .commit, s => (.ok (), s)
  | .rollback, s => (.ok (), s)
  | .stream .., s => ([], s)

/-- A store that hands out a byte that is no text, and keeps nothing. -/
def corruptStore : ResultStore Unit where
  get _ s := (.ok (some ⟨[0xff], ⟨0, 0⟩, .zero⟩), s)
  put _ _ _ s := (.error (.backend "disk full"), s)

/-- A gateway that keeps results for a minute. -/
def minuteGateway : Gateway := { longestLifetime := .ofSeconds 60 }

/-- A read that asks for a minute in the store. -/
def keepableRead : Request := { sql := "SELECT 1", lifetime := .ofSeconds 60 }

/-- A read is answered over the corrupt store as without one. -/
theorem corruptStore_invisible :
    let corrupted := minuteGateway.runSingle keepableRead ⟨"demo", none⟩
    let without := (minuteGateway.keepingFor .zero).runSingle keepableRead ⟨"demo", none⟩
    (corrupted.run (answerWith obliging corruptStore) ((), ())).1 =
        (without.run (answerWith obliging (.disabled ⟨0, 0⟩)) ((), ())).1 ∧
      (corrupted.run (answerWith obliging corruptStore) ((), ())).2.1 =
        (without.run (answerWith obliging (.disabled ⟨0, 0⟩)) ((), ())).2.1 ∧
      asked (corrupted.transcript (answerWith obliging corruptStore) ((), ())) =
        asked (without.transcript (answerWith obliging (.disabled ⟨0, 0⟩)) ((), ())) ∧
      (corrupted.transcript (answerWith obliging corruptStore) ((), ())).countP Event.isExecution ≤
        1 := by
  have unreadable : Outcome.ofPayload? [0xff] = none := by
    have undecodable : Text.Utf8.decode? [0xff] = none := by decide +kernel
    rw [Outcome.ofPayload?, undecodable]
    rfl
  have unserved : Unserved ((minuteGateway.runSingle keepableRead ⟨"demo", none⟩).transcript
      (answerWith obliging corruptStore) ((), ())) := by
    intro key found he
    obtain ⟨s, hanswer⟩ := exists_reply he
    dsimp only at hanswer
    rw [hanswer]
    exact unreadable
  exact store_trouble_invisible obliging corruptStore minuteGateway .zero ⟨0, 0⟩ keepableRead
    ⟨"demo", none⟩ () () unserved

end QueryGateway
