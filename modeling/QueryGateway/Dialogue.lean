/-! Computations that put questions to the world around them.

A `Dialogue` is a finite tree: it ends with a value, or asks a question and goes on with
the answer. It fixes what is asked and in which order, and leaves open who answers, so
what holds of it holds whatever the world does. -/
namespace QueryGateway

/-- A computation over questions of type `Q`, each with its type of answers. -/
inductive Dialogue (Q : Type) (A : Q → Type) (α : Type) where
  | done (value : α)
  | ask (q : Q) (next : A q → Dialogue Q A α)

namespace Dialogue

variable {Q : Type} {A : Q → Type} {α β σ : Type}

/-- Goes on with the value of a dialogue. -/
def bind : Dialogue Q A α → (α → Dialogue Q A β) → Dialogue Q A β
  | done a, f => f a
  | ask q next, f => ask q fun a => bind (next a) f

instance : Monad (Dialogue Q A) where
  pure := done
  bind := bind

/-- Asks one question and ends with its answer. -/
def question (q : Q) : Dialogue Q A (A q) := ask q done

/-- The value that a dialogue ends with in a world that answers from a state, and the state
it leaves behind. -/
def run (reply : (q : Q) → σ → A q × σ) : Dialogue Q A α → σ → α × σ
  | done a, s => (a, s)
  | ask q next, s => (next (reply q s).1).run reply (reply q s).2

/-- The questions that a dialogue asks in a world, each with its answer. -/
def transcript (reply : (q : Q) → σ → A q × σ) : Dialogue Q A α → σ → List ((q : Q) × A q)
  | done _, _ => []
  | ask q next, s =>
    ⟨q, (reply q s).1⟩ :: (next (reply q s).1).transcript reply (reply q s).2

@[simp] theorem run_pure (reply : (q : Q) → σ → A q × σ) (a : α) (s : σ) :
    (pure a : Dialogue Q A α).run reply s = (a, s) := rfl

theorem run_bind (reply : (q : Q) → σ → A q × σ) (d : Dialogue Q A α)
    (f : α → Dialogue Q A β) (s : σ) :
    (d >>= f).run reply s = (f (d.run reply s).1).run reply (d.run reply s).2 := by
  induction d generalizing s with
  | done a => rfl
  | ask q next ih => exact ih _ _

theorem transcript_bind (reply : (q : Q) → σ → A q × σ) (d : Dialogue Q A α)
    (f : α → Dialogue Q A β) (s : σ) :
    (d >>= f).transcript reply s =
      d.transcript reply s
        ++ (f (d.run reply s).1).transcript reply (d.run reply s).2 := by
  induction d generalizing s with
  | done a => rfl
  | ask q next ih => exact congrArg _ (ih _ _)

end Dialogue

end QueryGateway
