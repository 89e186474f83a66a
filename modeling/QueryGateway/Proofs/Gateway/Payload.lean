import QueryGateway.Gateway
import QueryGateway.Proofs.Json.Object
import QueryGateway.Proofs.Text.Utf8

/-! What is kept of an outcome is read back as the outcome, unless it is nested too deep. -/
namespace QueryGateway.Outcome

open Json

/-- An outcome whose values are regular and whose count fits 64 bits. -/
structure Regular (o : Outcome) : Prop where
  data : o.data.Regular
  sorted : Members.Sorted o.extra
  extra : RegularMembers o.extra
  affected : ∀ n, o.affectedRows = some n → n < Nat.pow 2 64

theorem regular_rows {data : Json} (h : data.Regular) : (rows data).Regular :=
  ⟨h, .nil, trivial, nofun⟩

/-- An outcome that is nested so little that what is kept of it can be read. -/
def Shallow (o : Outcome) : Prop :=
  o.data.depth < nestingLimit ∧ (Json.object o.extra).depth < nestingLimit

instance (o : Outcome) : Decidable o.Shallow := inferInstanceAs (Decidable (_ ∧ _))

theorem regular_members {o : Outcome} (h : o.Regular) : RegularMembers o.members := by
  obtain ⟨data, affected, extra⟩ := o
  refine regularMembers_iff.mpr fun m hm => ?_
  rcases List.mem_append.mp hm with hm | hm
  · rcases List.mem_append.mp hm with hm | hm
    · obtain rfl := List.mem_singleton.mp hm
      exact h.data
    · cases affected with
      | none => cases hm
      | some n =>
        obtain rfl := List.mem_singleton.mp hm
        have fits : ((n : Nat) : Int) < (Nat.pow 2 64 : Nat) := Int.ofNat_lt.mpr (h.affected n rfl)
        have regular : (Json.ofNat n).Regular := ⟨by omega, fits⟩
        exact regular
  · cases extra with
    | nil => cases hm
    | cons e extra =>
      obtain rfl := List.mem_singleton.mp hm
      have regular : (Json.object (e :: extra)).Regular := ⟨h.sorted, h.extra⟩
      exact regular

theorem depthMembers_le {o : Outcome} : depthMembers o.members < nestingLimit ↔ o.Shallow := by
  obtain ⟨data, affected, extra⟩ := o
  have one : 1 < nestingLimit := by decide
  cases affected <;> cases extra <;> simp [members, depthMembers, Shallow, depth, ofNat] <;> omega

section Reading

variable {o : Outcome}

theorem readObjectText_text (h : o.Regular) :
    readObjectText o.text = if o.Shallow then some o.members else none := by
  rw [text, readObjectText_renderMembers (regular_members h)]
  simp only [depthMembers_le]

theorem readText_text (h : o.Regular) (deep : ¬ o.Shallow) : readText o.text = none := by
  rw [text, readText_renderMembers (regular_members h), if_neg (mt depthMembers_le.mp deep)]

theorem distinctFields_members (o : Outcome) : distinctFields o.members = true := by
  obtain ⟨data, affected, extra⟩ := o
  cases affected <;> cases extra <;> rfl

/-- The fields of an outcome as they are looked up. -/
theorem get?_members (o : Outcome) :
    Members.get? (.ofList o.members) "data" = some o.data ∧
    Members.get? (.ofList o.members) "affected_rows" = o.affectedRows.map Json.ofNat ∧
    Members.get? (.ofList o.members) "extra" =
      if o.extra.isEmpty then none else some (.object o.extra) := by
  obtain ⟨data, affected, extra⟩ := o
  cases affected <;> cases extra <;>
    simp [members, Members.ofList, Members.extend, Members.get?_insert, Members.get?_nil]

theorem ofFields?_members (h : o.Regular) :
    ofFields? (Members.get? (.ofList o.members)) = some o := by
  obtain ⟨hdata, haffected, hextra⟩ := get?_members o
  have data : Fields.defaulted (Members.get? (.ofList o.members)) "data" some .null =
      some o.data := by
    rw [Fields.defaulted, hdata]
  have affected : Fields.optional (Members.get? (.ofList o.members)) "affected_rows" asNat64? =
      some o.affectedRows := by
    rw [Fields.optional, haffected]
    cases hn : o.affectedRows with
    | none => rfl
    | some n =>
      have fits : ((n : Nat) : Int) < (Nat.pow 2 64 : Nat) := Int.ofNat_lt.mpr (h.affected n hn)
      have positive : (0 : Int) ≤ n := Int.natCast_nonneg n
      rw [Option.map_some, Json.ofNat]
      dsimp only
      rw [asNat64?, asNatBelow?, if_pos (by simp only [positive, fits, decide_true, Bool.and_self])]
      rfl
  have extra : Fields.defaulted (Members.get? (.ofList o.members)) "extra" asObject? [] =
      some o.extra := by
    rw [Fields.defaulted, hextra]
    cases o.extra <;> rfl
  rw [ofFields?, data, affected, extra]
  rfl

/-- **What is kept of an outcome is read back** as the outcome unless it is nested too deep. -/
theorem ofPayload?_payload (h : o.Regular) :
    ofPayload? o.payload = if o.Shallow then some o else none := by
  rw [ofPayload?, payload, Text.Utf8.decode?_encodeChars, Option.bind_some, String.toList_ofList,
    ofText?, readObjectText_text h]
  by_cases shallow : o.Shallow
  · rw [if_pos shallow, if_pos shallow]
    dsimp only
    rw [if_pos (distinctFields_members o), ofFields?_members h]
  · rw [if_neg shallow, if_neg shallow]
    dsimp only
    rw [readText_text h shallow]
    rfl

/-- What is read back is the outcome that was kept. -/
theorem eq_of_ofPayload?_payload (h : o.Regular) {o' : Outcome}
    (read : ofPayload? o.payload = some o') : o' = o := by
  rw [ofPayload?_payload h] at read
  split at read
  · exact (Option.some.inj read).symm
  · cases read

end Reading

end QueryGateway.Outcome
