import QueryGateway.Proofs.Sql.Reading

/-! Reading up to a closing bracket.

A phrase that closes no bracket but those it has opened reads the same whether the text ends
or a bracket closes behind it (`Confined`). -/
namespace QueryGateway.Sql

open Phrase Grammar

/-! ### Brackets -/

/-- Whether a token is a round bracket. -/
def Token.isRound : Token → Bool
  | .opening .round | .closing .round => true
  | _ => false

/-- Whether a round bracket comes next, or nothing. -/
def stops (ls : List Lexeme) : Bool := ((next? ls).map Token.isRound).getD true

/-- Whether each round bracket has its counterpart, those of `depth` closing ones being in
front of the row. -/
def balanced : Nat → List Lexeme → Bool
  | depth, [] => depth == 0
  | depth, l :: rest =>
    match l.token with
    | .opening .round => balanced (depth + 1) rest
    | .closing .round => depth != 0 && balanced (depth - 1) rest
    | _ => balanced depth rest

/-- Whether no bracket stands where a token that follows a keyword is taken whatever it is: an
operator's name, two tokens behind the name of a whole table, and the word for a condition
behind the bracket that opens before it. -/
def clear (k : Keyword) (rest : List Lexeme) : Bool :=
  match k with
  | .OPERATOR => !opens .round rest || !stops (rest.drop 1)
  | .TABLE =>
    !startsWord rest || marks .dot (rest.drop 1) || (!stops (rest.drop 1) && !stops (rest.drop 2))
  | .FILTER => !opens .round rest || spells .WHERE (rest.drop 1)
  | _ => true

/-- Whether no bracket is passed over behind a lexeme. The two operators that take the next
character along do so at the end of a text too. -/
def spares (l : Lexeme) (rest : List Lexeme) : Bool :=
  match l.token with
  | .symbol .dot => !stops rest
  | .symbol (.operator text) => !rest.isEmpty || !(["?", "&>"].contains text)
  | t => (t.keyword.map (clear · rest)).getD true

/-- Whether no bracket is passed over anywhere in a row. -/
def spared : List Lexeme → Bool
  | [] => true
  | l :: rest => spares l rest && spared rest

/-- In front of a row `n` brackets are open, which are closed in it, and none is passed
over. -/
structure Open (n : Nat) (ls : List Lexeme) : Prop where
  balanced : balanced n ls = true
  spared : spared ls = true

namespace Open

variable {n : Nat} {l : Lexeme} {ls rest : List Lexeme}

theorem ne_nil (h : Open (n + 1) ls) : ls ≠ [] := by
  rintro rfl
  exact nomatch h.balanced

theorem spares (h : Open n (l :: rest)) : spares l rest = true :=
  (Bool.and_eq_true_iff.mp h.spared).1

theorem spared_rest (h : Open n (l :: rest)) : QueryGateway.Sql.spared rest = true :=
  (Bool.and_eq_true_iff.mp h.spared).2

theorem opening (h : Open n (l :: rest)) (opens : l.token = .opening .round) :
    Open (n + 1) rest := by
  have even := h.balanced
  rw [QueryGateway.Sql.balanced, opens] at even
  exact ⟨even, h.spared_rest⟩

theorem closing (h : Open (n + 1) (l :: rest)) (closes : l.token = .closing .round) :
    Open n rest := by
  have even := h.balanced
  rw [QueryGateway.Sql.balanced, closes] at even
  exact ⟨(Bool.and_eq_true_iff.mp even).2, h.spared_rest⟩

theorem next (h : Open n (l :: rest)) (other : l.token.isRound = false) : Open n rest := by
  have even := h.balanced
  rw [QueryGateway.Sql.balanced] at even
  split at even
  case h_1 opens => exact nomatch (congrArg Token.isRound opens).symm.trans other
  case h_2 closes => exact nomatch (congrArg Token.isRound closes).symm.trans other
  case h_3 => exact ⟨even, h.spared_rest⟩

end Open

/-! ### Phrases that take something -/

/-- A phrase takes something from the row whenever what it reads counts. -/
structure Takes (calls : Reader) {α : Type} (p : Phrase α) (counts : α → Prop) : Prop where
  less : ∀ {place ls a rest}, p.read calls place ls = .done a rest → counts a →
    rest.length < ls.length

namespace Takes

variable {calls : Reader} {α β : Type} {counts : α → Prop} {counts' : β → Prop}

theorem one {f : Lexeme → Option α} : Takes calls (.one f) counts := by
  constructor
  intro place ls a rest done _
  cases ls with
  | nil => cases done
  | cons l ls =>
    rw [Phrase.read] at done
    split at done
    · cases done
      exact Nat.lt_succ_self _
    · cases done

theorem miss : Takes calls .miss counts := ⟨nofun⟩

theorem pure {a : α} (h : ¬ counts a) : Takes calls (pure a) counts := by
  constructor
  intro place ls b rest done counted
  cases done
  exact (h counted).elim

/-- If the first of two phrases takes nothing, the other one has to. -/
theorem bind [Shrinks calls] {p : Phrase α} {f : α → Phrase β} (hp : Takes calls p counts)
    (hf : ∀ a, ¬ counts a → Takes calls (f a) counts') : Takes calls (p >>= f) counts' := by
  constructor
  intro place ls b rest done counted
  obtain ⟨a, mid, first, done⟩ := read_bind_eq_done.mp done
  by_cases h : counts a
  · exact Nat.lt_of_le_of_lt (read_suffix done).length_le (hp.less first h)
  · exact Nat.lt_of_lt_of_le ((hf a h).less done counted) (read_suffix first).length_le

/-- What follows a value that is known. -/
theorem known {a : α} {f : α → Phrase β} (h : Takes calls (f a) counts') :
    Takes calls (Pure.pure a >>= f) counts' :=
  ⟨h.less⟩

/-- Behind a phrase that takes something. -/
theorem first [Shrinks calls] {p : Phrase α} {f : α → Phrase β} (hp : Takes calls p fun _ => True) :
    Takes calls (p >>= f) counts' :=
  hp.bind fun _ none => (none trivial).elim

/-- Behind a phrase that may take nothing. -/
theorem later [Shrinks calls] {p : Phrase α} {f : α → Phrase β}
    (hf : ∀ a, Takes calls (f a) counts') : Takes calls (p >>= f) counts' := by
  have nothing : Takes calls p fun _ => False := ⟨fun _ h => h.elim⟩
  exact nothing.bind fun a _ => hf a

theorem attempt {p : Phrase α} (hp : Takes calls p fun _ => True) :
    Takes calls (attempt p) fun o => o.isSome = true := by
  constructor
  intro place ls o rest done counted
  rw [Phrase.read] at done
  split at done
  case h_1 found =>
    cases done
    exact hp.less found trivial
  case h_2 =>
    cases done
    cases counted
  case h_3 => cases done

theorem ite {c : Prop} [Decidable c] {p q : Phrase α} (hp : c → Takes calls p counts)
    (hq : ¬ c → Takes calls q counts) : Takes calls (if c then p else q) counts := by
  split
  · exact hp ‹_›
  · exact hq ‹_›

variable [Shrinks calls]

/-- Whether something was taken. -/
theorem isSome {p : Phrase α} (hp : Takes calls p fun _ => True) :
    Takes calls (do return (← Phrase.attempt p).isSome) (· = true) :=
  hp.attempt.bind fun _ none => .pure none

theorem has {k : Keyword} : Takes calls (has k) (· = true) := isSome one

theorem hasMark {s : Symbol} : Takes calls (hasMark s) (· = true) := isSome one

theorem hasAll {k : Keyword} {ks : List Keyword} : Takes calls (hasAll (k :: ks)) (· = true) :=
  isSome (first one)

omit [Shrinks calls] in
theorem hasAny {ks : List Keyword} : Takes calls (hasAny ks) fun o => o.isSome = true :=
  .attempt one

/-- If the first words do not come next, what stands for them has to take something. -/
theorem orElse {p : Phrase Bool} {q r : Phrase α} (hp : Takes calls p (· = true))
    (hr : Takes calls r counts) : Takes calls (do if ← p then q else r) counts :=
  hp.bind fun _ none => ite (fun taken => (none taken).elim) fun _ => hr

theorem hasOneOf {kss : List (List Keyword)} (h : ∀ ks ∈ kss, ks ≠ []) :
    Takes calls (hasOneOf kss) (· = true) := by
  induction kss with
  | nil => exact pure Bool.false_ne_true
  | cons ks kss ih =>
    obtain ⟨k, ks, rfl⟩ := List.exists_cons_of_ne_nil (h ks List.mem_cons_self)
    exact hasAll.orElse (ih fun ks hks => h ks (List.mem_cons_of_mem _ hks))

/-- What follows only where something was taken. -/
theorem guard {p : Phrase Bool} {q : Phrase (Option α)} (hp : Takes calls p (· = true)) :
    Takes calls (do if ← p then q else return none) fun o => o.isSome = true :=
  hp.orElse (.pure Bool.false_ne_true)

theorem presence {p : Phrase Bool} (hp : Takes calls p (· = true)) :
    Takes calls (presence p) fun o => o.isSome = true :=
  guard hp

end Takes

/-! ### Reading in front of a bracket -/

/-- An outcome in front of `tail`, and what holds of it and of what is left of the row. -/
def Agrees {α : Type} (tail : List Lexeme) (Q : α → List Lexeme → Prop) :
    Outcome α → Outcome α → Prop
  | .done a rest, o => o = .done a (rest ++ tail) ∧ Q a rest
  | .mismatch, o => o = .mismatch
  | .refused, o => o = .refused

/-- A loop whose clock suffices goes on until it stops by itself. -/
theorem loopFrom_of_enough {σ : Type} {step : σ → List Lexeme → Outcome (Option σ)}
    {clock ls : List Lexeme} {s : σ}
    (takes : ∀ {s' rest}, step s ls = .done (some s') rest → rest.length < ls.length)
    (enough : ls.length ≤ clock.length) :
    loopFrom step clock s ls = match step s ls with
      | .done none rest => .done s rest
      | .done (some s') rest => loopFrom step clock.tail s' rest
      | .mismatch => .mismatch
      | .refused => .refused := by
  cases clock with
  | nil =>
    rw [loopFrom]
    cases turned : step s ls with
    | done o rest =>
      cases o with
      | none => rfl
      | some s' => exact absurd (Nat.lt_of_lt_of_le (takes turned) enough) (Nat.not_lt_zero _)
    | mismatch | refused => rfl
  | cons =>
    rw [loopFrom]
    cases step s ls with
    | done o rest => cases o <;> rfl
    | mismatch | refused => rfl

/-- A phrase reads a row of which `P` holds as it reads it in front of `tail`. -/
def Alike (calls : Reader) (tail : List Lexeme) {α : Type} (P : List Lexeme → Prop)
    (p : Phrase α) (Q : α → List Lexeme → Prop) : Prop :=
  ∀ place ls, P ls → Agrees tail Q (p.read calls place ls) (p.read calls place (ls ++ tail))

namespace Alike

variable {calls : Reader} {tail : List Lexeme} {α β σ : Type} {P P' : List Lexeme → Prop}
  {Q Q' : α → List Lexeme → Prop} {R : β → List Lexeme → Prop}

theorem weaken {p : Phrase α} (h : Alike calls tail P p Q) (pre : ∀ ls, P' ls → P ls)
    (post : ∀ a ls, Q a ls → Q' a ls) : Alike calls tail P' p Q' := by
  intro place ls hls
  have agrees := h place ls (pre ls hls)
  cases first : p.read calls place ls with
  | done a rest =>
    rw [first] at agrees
    exact ⟨agrees.1, post a rest agrees.2⟩
  | mismatch =>
    rw [first] at agrees
    exact agrees
  | refused =>
    rw [first] at agrees
    exact agrees

theorem pure {a : α} (h : ∀ ls, P ls → Q a ls) : Alike calls tail P (pure a) Q :=
  fun _ ls hls => ⟨rfl, h ls hls⟩

theorem miss : Alike calls tail P .miss Q := fun _ _ _ => rfl

theorem here {Q : Place → List Lexeme → Prop} (h : ∀ place ls, P ls → Q place ls) :
    Alike calls tail P .here Q :=
  fun place ls hls => ⟨rfl, h place ls hls⟩

theorem within {there : Place} {p : Phrase α} (h : Alike calls tail P p Q) :
    Alike calls tail P (.within there p) Q :=
  fun _ ls hls => h there ls hls

theorem bind {p : Phrase α} {f : α → Phrase β} (hp : Alike calls tail P p Q)
    (hf : ∀ a, Alike calls tail (Q a) (f a) R) : Alike calls tail P (p >>= f) R := by
  intro place ls hls
  have agrees := hp place ls hls
  show Agrees tail R ((Phrase.andThen p f).read calls place ls)
    ((Phrase.andThen p f).read calls place (ls ++ tail))
  rw [Phrase.read, Phrase.read]
  cases first : p.read calls place ls with
  | done a rest =>
    rw [first] at agrees
    rw [agrees.1]
    exact hf a place rest agrees.2
  | mismatch =>
    rw [first] at agrees
    rw [agrees]
    rfl
  | refused =>
    rw [first] at agrees
    rw [agrees]
    rfl

theorem attempt {p : Phrase α} (h : Alike calls tail P p Q) :
    Alike calls tail P (attempt p) fun o ls => match o with
      | some a => Q a ls
      | none => P ls ∧ ∃ place, p.read calls place ls = .mismatch := by
  intro place ls hls
  have agrees := h place ls hls
  rw [Phrase.read, Phrase.read]
  cases first : p.read calls place ls with
  | done a rest =>
    rw [first] at agrees
    rw [agrees.1]
    exact ⟨rfl, agrees.2⟩
  | mismatch =>
    rw [first] at agrees
    rw [agrees]
    exact ⟨rfl, hls, place, first⟩
  | refused =>
    rw [first] at agrees
    rw [agrees]
    rfl

theorem fallback {p q : Phrase α} (hp : Alike calls tail P p Q) (hq : Alike calls tail P q Q) :
    Alike calls tail P (fallback p q) Q := by
  intro place ls hls
  have agrees := hp place ls hls
  have otherwise := hq place ls hls
  rw [Phrase.read, Phrase.read]
  cases first : p.read calls place ls with
  | done a rest =>
    rw [first] at agrees
    rw [agrees.1]
    exact ⟨rfl, agrees.2⟩
  | mismatch | refused =>
    rw [first] at agrees
    rw [agrees]
    cases second : q.read calls place ls with
    | done a rest =>
      rw [second] at otherwise
      rw [otherwise.1]
      exact ⟨rfl, otherwise.2⟩
    | mismatch | refused =>
      rw [second] at otherwise
      rw [otherwise]
      rfl

theorem ofNonempty {p : Phrase α} (ended : ∀ place, P [] →
      Agrees tail Q (p.read calls place []) (p.read calls place tail))
    (h : Alike calls tail (fun ls => P ls ∧ ls ≠ []) p Q) : Alike calls tail P p Q := by
  intro place ls hls
  cases ls with
  | nil => exact ended place hls
  | cons l ls => exact h place (l :: ls) ⟨hls, nofun⟩

/-- What a phrase sees ahead, it sees in front of `tail` too. -/
theorem ahead {f : List Lexeme → α} (h : ∀ ls, P ls → f (ls ++ tail) = f ls) :
    Alike calls tail P (ahead f) fun a ls => P ls ∧ f ls = a :=
  fun _ ls hls => ⟨congrArg (Outcome.done · _) (h ls hls), hls, rfl⟩

/-- A lexeme is read alike if a bracket that closes is none where the row has ended. -/
theorem one (closing : closes .round tail = true) {f : Lexeme → Option α}
    (refuses : P [] → ∀ l : Lexeme, l.token = .closing .round → f l = none)
    (takes : ∀ l ls a, P (l :: ls) → f l = some a → Q a ls) : Alike calls tail P (.one f) Q := by
  intro place ls hls
  cases ls with
  | nil =>
    match tail, closing with
    | ⟨t, apart⟩ :: more, closing =>
      have closed : t = .closing .round := by simpa [closes, next?] using closing
      have none := refuses hls ⟨t, apart⟩ closed
      show Phrase.read calls (.one f) place (⟨t, apart⟩ :: more) = .mismatch
      rw [Phrase.read, none]
  | cons l ls =>
    rw [List.cons_append, Phrase.read, Phrase.read]
    cases first : f l with
    | none => rfl
    | some a => exact ⟨rfl, takes l ls a hls first⟩

theorem ite {c : Prop} [Decidable c] {p q : Phrase α} (hp : c → Alike calls tail P p Q)
    (hq : ¬ c → Alike calls tail P q Q) : Alike calls tail P (if c then p else q) Q := by
  split
  · exact hp ‹_›
  · exact hq ‹_›

/-- A loop that takes something in each turn but the last has as many turns in front of
`tail`. -/
theorem loop {start : σ} {step : σ → Phrase (Option σ)} {I : σ → List Lexeme → Prop}
    (turn : ∀ s, Alike calls tail (I s) (step s) fun o ls => match o with
      | some s' => I s' ls
      | none => I s ls)
    (takes : ∀ s, Takes calls (step s) fun o => o.isSome = true) :
    Alike calls tail (I start) (.loop start step) I := by
  intro place ls hls
  let turns := loopFrom fun s => (step s).read calls place
  suffices ∀ ls clock clock' s, I s ls → ls.length ≤ clock.length →
      (ls ++ tail).length ≤ clock'.length →
      Agrees tail I (turns clock s ls) (turns clock' s (ls ++ tail)) from
    this ls ls (ls ++ tail) start hls (Nat.le_refl _) (Nat.le_refl _)
  clear hls
  intro ls clock clock' s hls enough enough'
  induction n : ls.length using Nat.strongRecOn generalizing clock clock' s ls with
  | ind n ih =>
    subst n
    have agrees := turn s place ls hls
    simp only [turns]
    rw [loopFrom_of_enough (fun done => (takes s).less done rfl) enough,
      loopFrom_of_enough (fun done => (takes s).less done rfl) enough']
    cases first : (step s).read calls place ls with
    | done o rest =>
      rw [first] at agrees
      rw [agrees.1]
      cases o with
      | none => exact ⟨rfl, agrees.2⟩
      | some s' =>
        have less := (takes s).less first rfl
        refine ih rest.length less rest clock.tail clock'.tail s' agrees.2 ?_ ?_ rfl
        · rw [List.length_tail]
          omega
        · rw [List.length_append] at enough' ⊢
          rw [List.length_tail]
          omega
    | mismatch =>
      rw [first] at agrees
      rw [agrees]
      rfl
    | refused =>
      rw [first] at agrees
      rw [agrees]
      rfl

end Alike

/-! ### Phrases that keep brackets -/

/-- The rules that close no bracket but those they open. -/
def Rule.isInner : Rule → Bool
  | .statement | .options => false
  | _ => true

/-- Rules that read the same whether the text ends or goes on with `tail`, where a bracket
closes. -/
class Enclosing (calls : Reader) (tail : List Lexeme) : Prop extends Shrinks calls where
  closing : closes .round tail = true
  alike : ∀ {r : Rule}, r.isInner = true → ∀ n, Alike calls tail (Open n) (call r) fun _ => Open n

/-- A phrase that reads the same whether the text ends or a bracket closes, where at least `b`
brackets are open; it closes none of them. -/
class Confined (calls : Reader) (tail : List Lexeme) (b : Nat) {α : Type} (p : Phrase α) :
    Prop where
  alike : ∀ n, b ≤ n → Alike calls tail (Open n) p fun _ => Open n

namespace Confined

variable {calls : Reader} {tail : List Lexeme} {b : Nat} {α β σ : Type}

instance pure {a : α} : Confined calls tail b (Pure.pure a : Phrase α) :=
  ⟨fun _ _ => .pure fun _ h => h⟩

instance give {a : α} : Confined calls tail b (.give a) := pure

instance miss : Confined calls tail b (.miss : Phrase α) := ⟨fun _ _ => .miss⟩

instance here : Confined calls tail b .here := ⟨fun _ _ => .here fun _ _ h => h⟩

instance within {there : Place} {p : Phrase α} [Confined calls tail b p] :
    Confined calls tail b (.within there p) :=
  ⟨fun n hn => .within (alike n hn)⟩

instance bind {p : Phrase α} {f : α → Phrase β} [Confined calls tail b p]
    [∀ a, Confined calls tail b (f a)] : Confined calls tail b (p >>= f) :=
  ⟨fun n hn => .bind (alike n hn) fun _ => alike n hn⟩

theorem andThen {p : Phrase α} {f : α → Phrase β} (hp : Confined calls tail b p)
    (hf : ∀ a, Confined calls tail b (f a)) : Confined calls tail b (p >>= f) :=
  bind

instance attempt {p : Phrase α} [h : Confined calls tail b p] :
    Confined calls tail b (.attempt p) where
  alike n hn := by
    refine (h.alike n hn).attempt.weaken (fun _ h => h) ?_
    rintro (_ | a) ls h
    · exact h.1
    · exact h

instance fallback {p q : Phrase α} [Confined calls tail b p] [Confined calls tail b q] :
    Confined calls tail b (.fallback p q) :=
  ⟨fun n hn => .fallback (alike n hn) (alike n hn)⟩

instance ite {c : Prop} [Decidable c] {p q : Phrase α} [Confined calls tail b p]
    [Confined calls tail b q] : Confined calls tail b (if c then p else q) :=
  ⟨fun n hn => .ite (fun _ => alike n hn) fun _ => alike n hn⟩

theorem either {c : Prop} [Decidable c] {p q : Phrase α} (hp : Confined calls tail b p)
    (hq : Confined calls tail b q) : Confined calls tail b (if c then p else q) :=
  ite

theorem ahead {f : List Lexeme → α} (h : ∀ n ls, b ≤ n → Open n ls → f (ls ++ tail) = f ls) :
    Confined calls tail b (.ahead f) :=
  ⟨fun n hn => (Alike.ahead fun ls => h n ls hn).weaken (fun _ h => h) fun _ _ h => h.1⟩

theorem loop {start : σ} {step : σ → Phrase (Option σ)} (turn : ∀ s, Confined calls tail b (step s))
    (takes : ∀ s, Takes calls (step s) fun o => o.isSome = true) :
    Confined calls tail b (.loop start step) where
  alike n hn := by
    refine .loop (I := fun _ => Open n) (fun s => ?_) takes
    refine ((turn s).alike n hn).weaken (fun _ h => h) fun o _ h => ?_
    cases o <;> exact h

end Confined

end QueryGateway.Sql
