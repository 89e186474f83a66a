import QueryGateway.Dialogue

/-! The runs of a dialogue, whoever answers.

`Yields` relates a dialogue to the questions and answers of a run and the value at its end,
for any answers at all: a world that answers from a state gives one such run
(`yields_transcript`), and every run comes apart where the dialogue was put together
(`yields_bind`). -/
namespace QueryGateway.Dialogue

variable {Q : Type} {A : Q → Type} {α β σ : Type}

/-! ### Putting dialogues together -/

theorem bind_done (d : Dialogue Q A α) : d.bind done = d := by
  induction d with
  | done a => rfl
  | ask q next ih => exact congrArg (ask q) (funext ih)

theorem bind_bind {γ : Type} (d : Dialogue Q A α) (f : α → Dialogue Q A β)
    (f' : β → Dialogue Q A γ) : (d.bind f).bind f' = d.bind fun a => (f a).bind f' := by
  induction d with
  | done a => rfl
  | ask q next ih => exact congrArg (ask q) (funext ih)

instance : LawfulMonad (Dialogue Q A) :=
  LawfulMonad.mk' _ (fun d => bind_done d) (fun _ _ => rfl) bind_bind

theorem run_map (reply : (q : Q) → σ → A q × σ) (f : α → β) (d : Dialogue Q A α) (s : σ) :
    (f <$> d).run reply s = (f (d.run reply s).1, (d.run reply s).2) :=
  run_bind reply d (fun a => pure (f a)) s

theorem transcript_map (reply : (q : Q) → σ → A q × σ) (f : α → β) (d : Dialogue Q A α)
    (s : σ) : (f <$> d).transcript reply s = d.transcript reply s :=
  (transcript_bind reply d (fun a => pure (f a)) s).trans (List.append_nil _)

theorem run_ask (reply : (q : Q) → σ → A q × σ) (q : Q) (f : A q → Dialogue Q A α) (s : σ) :
    (question q >>= f).run reply s = (f (reply q s).1).run reply (reply q s).2 := rfl

theorem transcript_ask (reply : (q : Q) → σ → A q × σ) (q : Q) (f : A q → Dialogue Q A α)
    (s : σ) :
    (question q >>= f).transcript reply s =
      ⟨q, (reply q s).1⟩ :: (f (reply q s).1).transcript reply (reply q s).2 := rfl

/-! ### Runs -/

/-- Questions with their answers, in order. -/
abbrev Transcript (Q : Type) (A : Q → Type) := List ((q : Q) × A q)

/-- Put to someone who gives these answers, the dialogue asks these questions and ends with
the value. -/
inductive Yields : Dialogue Q A α → Transcript Q A → α → Prop
  | done (a : α) : Yields (.done a) [] a
  | ask {q : Q} {next : A q → Dialogue Q A α} (answer : A q) {events : Transcript Q A} {a : α}
      (rest : Yields (next answer) events a) : Yields (.ask q next) (⟨q, answer⟩ :: events) a

theorem yields_pure {a b : α} {events : Transcript Q A} :
    (pure a : Dialogue Q A α).Yields events b ↔ events = [] ∧ b = a := by
  constructor
  · intro h
    cases h
    exact ⟨rfl, rfl⟩
  · intro ended
    obtain ⟨rfl, rfl⟩ := ended
    exact .done b

theorem yields_question {q : Q} {a : A q} {events : Transcript Q A} :
    (question q).Yields events a ↔ events = [⟨q, a⟩] := by
  constructor
  · intro h
    cases h with
    | ask _ rest =>
      cases rest
      rfl
  · intro same
    subst same
    exact .ask a (.done a)

theorem yields_bind {d : Dialogue Q A α} {f : α → Dialogue Q A β} {events : Transcript Q A}
    {b : β} :
    (d >>= f).Yields events b ↔
      ∃ first a rest, events = first ++ rest ∧ d.Yields first a ∧ (f a).Yields rest b := by
  constructor
  · intro h
    induction d generalizing events with
    | done a => exact ⟨[], a, events, rfl, .done a, h⟩
    | ask q next ih =>
      cases h with
      | ask answer rest =>
        obtain ⟨first, a, later, rfl, hd, hf⟩ := ih answer rest
        exact ⟨⟨q, answer⟩ :: first, a, later, rfl, .ask answer hd, hf⟩
  · intro parts
    obtain ⟨first, a, rest, rfl, hd, hf⟩ := parts
    induction hd with
    | done a => exact hf
    | ask answer _ ih => exact .ask answer (ih hf)

theorem yields_map {d : Dialogue Q A α} {f : α → β} {events : Transcript Q A} {b : β} :
    (d >>= fun a => pure (f a)).Yields events b ↔ ∃ a, d.Yields events a ∧ b = f a := by
  rw [yields_bind]
  constructor
  · intro parts
    obtain ⟨first, a, rest, rfl, hd, hf⟩ := parts
    obtain ⟨rfl, rfl⟩ := yields_pure.mp hf
    rw [List.append_nil]
    exact ⟨a, hd, rfl⟩
  · intro ended
    obtain ⟨a, hd, rfl⟩ := ended
    exact ⟨events, a, [], (List.append_nil _).symm, hd, .done _⟩

/-- A dialogue that begins with a question has that question first. -/
theorem yields_ask {q : Q} {f : A q → Dialogue Q A β} {events : Transcript Q A} {b : β} :
    (question q >>= f).Yields events b ↔
      ∃ a rest, events = ⟨q, a⟩ :: rest ∧ (f a).Yields rest b := by
  rw [yields_bind]
  constructor
  · intro parts
    obtain ⟨first, a, rest, rfl, hq, hf⟩ := parts
    rw [yields_question.mp hq]
    exact ⟨a, rest, rfl, hf⟩
  · intro parts
    obtain ⟨a, rest, rfl, hf⟩ := parts
    exact ⟨[⟨q, a⟩], a, rest, rfl, yields_question.mpr rfl, hf⟩

/-- The same answers give the same run. -/
theorem Yields.unique {d : Dialogue Q A α} {events events' rest rest' : Transcript Q A} {a b : α}
    (h : d.Yields events a) (h' : d.Yields events' b) (same : events ++ rest = events' ++ rest') :
    events = events' ∧ rest = rest' ∧ a = b := by
  induction h generalizing events' with
  | done a =>
    cases h'
    exact ⟨rfl, same, rfl⟩
  | ask answer _ ih =>
    cases h' with
    | ask answer' later =>
      obtain ⟨head, tail⟩ := List.cons.inj same
      cases head
      obtain ⟨rfl, rfl, rfl⟩ := ih later tail
      exact ⟨rfl, rfl, rfl⟩

theorem Yields.unique_answer {d : Dialogue Q A α} {events : Transcript Q A} {a b : α}
    (h : d.Yields events a) (h' : d.Yields events b) : a = b :=
  have same : events ++ [] = events ++ [] := rfl
  (h.unique h' same).2.2

/-- What happens in a world is a run. -/
theorem yields_transcript (reply : (q : Q) → σ → A q × σ) (d : Dialogue Q A α) (s : σ) :
    d.Yields (d.transcript reply s) (d.run reply s).1 := by
  induction d generalizing s with
  | done a => exact .done a
  | ask q next ih => exact .ask _ (ih _ _)

/-- In a world every question is answered from some state. -/
theorem exists_reply {reply : (q : Q) → σ → A q × σ} {d : Dialogue Q A α} {s : σ}
    {e : (q : Q) × A q} (h : e ∈ d.transcript reply s) : ∃ s', e.2 = (reply e.1 s').1 := by
  induction d generalizing s with
  | done a => cases h
  | ask q next ih =>
    rcases List.mem_cons.mp h with rfl | h
    · exact ⟨s, rfl⟩
    · exact ih _ h

/-- Questions put one after the other, with the answers that a world gives to them. -/
def replies (reply : (q : Q) → σ → A q × σ) : List Q → σ → Transcript Q A
  | [], _ => []
  | q :: rest, s => ⟨q, (reply q s).1⟩ :: replies reply rest (reply q s).2

theorem transcript_eq_replies (reply : (q : Q) → σ → A q × σ) (d : Dialogue Q A α) (s : σ) :
    d.transcript reply s = replies reply ((d.transcript reply s).map (·.1)) s := by
  induction d generalizing s with
  | done a => rfl
  | ask q next ih => exact congrArg (_ :: ·) (ih _ _)

/-- An answer does not depend on what is asked after it. -/
theorem replies_take (reply : (q : Q) → σ → A q × σ) (questions : List Q) (n : Nat) (s : σ) :
    replies reply (questions.take n) s = (replies reply questions s).take n := by
  induction questions generalizing n s with
  | nil => rw [List.take_nil, replies, List.take_nil]
  | cons q rest ih =>
    cases n with
    | zero => rfl
    | succ n => exact congrArg (_ :: ·) (ih n _)

/-! ### What is asked at all -/

/-- Whatever the answers are, all questions of the dialogue have a property. -/
def Only (P : Q → Prop) (d : Dialogue Q A α) : Prop :=
  ∀ events a, d.Yields events a → ∀ e ∈ events, P e.1

section Only

variable {P : Q → Prop}

theorem only_pure (a : α) : (pure a : Dialogue Q A α).Only P := by
  intro events b h
  obtain ⟨rfl, _⟩ := yields_pure.mp h
  exact List.forall_mem_nil _

theorem only_question {q : Q} (h : P q) : (question q : Dialogue Q A (A q)).Only P := by
  intro events a hq e he
  rw [yields_question.mp hq] at he
  rw [List.mem_singleton.mp he]
  exact h

theorem Only.bind {d : Dialogue Q A α} {f : α → Dialogue Q A β} (h : d.Only P)
    (h' : ∀ a, (f a).Only P) : (d >>= f).Only P := by
  intro events b hd e he
  obtain ⟨first, a, rest, rfl, hfirst, hrest⟩ := yields_bind.mp hd
  rcases List.mem_append.mp he with he | he
  · exact h first a hfirst e he
  · exact h' a rest b hrest e he

theorem Only.first {q : Q} {next : A q → Dialogue Q A α} (h : (ask q next).Only P)
    (reply : (q : Q) → σ → A q × σ) (s : σ) : P q :=
  h _ _ (yields_transcript reply (ask q next) s) _ (List.mem_cons_self ..)

theorem Only.next {q : Q} {next : A q → Dialogue Q A α} (h : (ask q next).Only P)
    (answer : A q) : (next answer).Only P :=
  fun _ _ hrest e he => h _ _ (.ask answer hrest) e (List.mem_cons_of_mem _ he)

end Only

/-! ### What comes before -/

/-- Whether every event of a transcript is admitted by what came before it. -/
def Guarded (admits : Transcript Q A → Q → Prop) (past : Transcript Q A) :
    Transcript Q A → Prop
  | [] => True
  | e :: events => admits past e.1 ∧ Guarded admits (past ++ [e]) events

variable {admits : Transcript Q A → Q → Prop}

theorem guarded_append {past events events' : Transcript Q A} :
    Guarded admits past (events ++ events') ↔
      Guarded admits past events ∧ Guarded admits (past ++ events) events' := by
  induction events generalizing past with
  | nil => simp [Guarded]
  | cons e events ih =>
    rw [List.cons_append, Guarded, Guarded, ih, and_assoc, List.append_assoc]
    rfl

theorem guarded_of_forall {past events : Transcript Q A}
    (h : ∀ e ∈ events, ∀ before, admits (past ++ before) e.1) : Guarded admits past events := by
  induction events generalizing past with
  | nil => trivial
  | cons e events ih =>
    refine ⟨?_, ih fun e' he' before => ?_⟩
    · rw [← List.append_nil past]
      exact h e (List.mem_cons_self ..) []
    · rw [List.append_assoc]
      exact h e' (List.mem_cons_of_mem _ he') _

theorem Guarded.admitted {past before after : Transcript Q A} {e : (q : Q) × A q}
    (h : Guarded admits past (before ++ e :: after)) : admits (past ++ before) e.1 :=
  (guarded_append.mp h).2.1

end QueryGateway.Dialogue
