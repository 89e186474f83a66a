/-! Computations that may fail, and what it takes for them to succeed. -/
namespace QueryGateway

variable {ε α : Type}

theorem except_bind_eq_ok {β : Type} {x : Except ε α} {f : α → Except ε β} {b : β} :
    x >>= f = .ok b ↔ ∃ a, x = .ok a ∧ f a = .ok b := by
  cases x with
  | error e =>
    refine iff_of_false nofun ?_
    intro result
    obtain ⟨_, h, _⟩ := result
    cases h
  | ok a =>
    constructor
    · exact fun h => ⟨a, rfl, h⟩
    · intro result
      obtain ⟨_, ⟨⟩, h⟩ := result
      exact h

theorem except_then_eq_ok {β : Type} {x : Except ε Unit} {y : Except ε β} {b : β} :
    (x >>= fun _ => y) = .ok b ↔ x = .ok () ∧ y = .ok b := by
  rw [except_bind_eq_ok]
  constructor
  · rintro ⟨_, first, second⟩
    exact ⟨first, second⟩
  · rintro ⟨first, second⟩
    exact ⟨(), first, second⟩

theorem except_mapError_eq_ok {ε' : Type} {x : Except ε α} {f : ε → ε'} {a : α} :
    x.mapError f = .ok a ↔ x = .ok a := by
  cases x with
  | error e => exact iff_of_false nofun nofun
  | ok b =>
    show Except.ok b = Except.ok a ↔ _
    rw [Except.ok.injEq, Except.ok.injEq]

/-- A check of many things passes if each of them passes. -/
theorem except_forM_eq_ok {check : α → Except ε Unit} {items : List α} :
    items.forM check = .ok () ↔ ∀ x ∈ items, check x = .ok () := by
  induction items with
  | nil => exact iff_of_true rfl (List.forall_mem_nil _)
  | cons x rest ih =>
    have run : (x :: rest).forM check = check x >>= fun _ => rest.forM check := rfl
    rw [run, except_then_eq_ok, List.forall_mem_cons, ih]

end QueryGateway
