import QueryGateway.Account.Authorizer
import QueryGateway.Proofs.Json.Members
import QueryGateway.Proofs.Relation.Segment

/-! What an account rules.

An access is allowed if no key is needed for it or the credentials cover it
(`Account.admits`). The verdict on one that is allowed tells the access level
(`authorize_of_admits`); on any other it is a denial (`authorize_of_not_admits`). -/
namespace QueryGateway

/-! ### Names as they are looked up -/

theorem qualified_of_dot {name : String} (h : '.' ∈ name.toList) :
    qualified name = name.toLower :=
  if_pos (List.contains_iff_mem.mpr (dot_mem_toLower.mpr h))

theorem qualified_of_dotless {name : String} (h : '.' ∉ name.toList) :
    qualified name = "public." ++ name.toLower :=
  if_neg (mt List.contains_iff_mem.mp (mt dot_mem_toLower.mp h))

/-! ### Rulings -/

namespace Account

/-- Whether the credentials of a question cover its access, where a key is needed: the key is
that of the account, or that of a subuser with the privilege. -/
def covers (env : Environment) (a : Account) (q : Question) : Bool :=
  match q.credentials.subuser with
  | none => keyMatches (a.key.resolve env) q.credentials.apiKey
  | some subuser =>
    match a.subusers.lookup subuser with
    | none => false
    | some s =>
      keyMatches (s.key.resolve env) q.credentials.apiKey &&
        (s.privilegeFor q.relation).allows q.requireWrite

/-- Whom a key identifies. -/
def session (name : String) (q : Question) : String :=
  match q.credentials.subuser with
  | none => name
  | some subuser => subuser ++ "@" ++ name

section Ruling

variable (env : Environment) (name : String) (a : Account) (q : Question)

theorem authorize_of_open (h : (a.accessFor q.relation).needsKey q.requireWrite = false) :
    a.authorize env name q = grant (a.accessFor q.relation) q := by
  simp [authorize, h]

theorem authorize_of_covers (h : (a.accessFor q.relation).needsKey q.requireWrite = true)
    (covered : a.covers env q = true) : a.authorize env name q =
      (grant (a.accessFor q.relation) q).withDetail "session" (.string (session name q)) := by
  rw [covers] at covered
  rw [authorize, if_pos h, session]
  cases caller : q.credentials.subuser with
  | none =>
    rw [caller] at covered
    exact if_pos covered
  | some subuser =>
    rw [caller] at covered
    cases known : a.subusers.lookup subuser with
    | none => simp [known] at covered
    | some s =>
      simp only [known, Bool.and_eq_true] at covered
      simp only [known, if_pos covered.1, if_pos covered.2]

theorem authorize_of_uncovered (h : (a.accessFor q.relation).needsKey q.requireWrite = true)
    (uncovered : a.covers env q = false) :
    ∃ message, a.authorize env name q = .denied 403 message := by
  rw [covers] at uncovered
  rw [authorize, if_pos h]
  cases caller : q.credentials.subuser with
  | none =>
    rw [caller] at uncovered
    exact ⟨_, if_neg (Bool.eq_false_iff.mp uncovered)⟩
  | some subuser =>
    rw [caller] at uncovered
    cases known : a.subusers.lookup subuser with
    | none =>
      simp only [known]
      exact ⟨_, rfl⟩
    | some s =>
      simp only [known, Bool.and_eq_false_iff] at uncovered
      by_cases key : keyMatches (s.key.resolve env) q.credentials.apiKey = true
      · have lacking := uncovered.resolve_left (by simp [key])
        simp only [known, if_pos key, lacking]
        exact ⟨_, rfl⟩
      · simp only [known, if_neg key]
        exact ⟨_, rfl⟩

/-- Whether an access is allowed: no key is needed for it, or the credentials cover it. -/
def admits : Bool := !(a.accessFor q.relation).needsKey q.requireWrite || a.covers env q

theorem authorize_of_admits (h : a.admits env q = true) :
    (a.authorize env name q).success = true ∧ (a.authorize env name q).code = 200 ∧
      (a.authorize env name q).details.get? "auth_level" =
        some (.string (a.accessFor q.relation).name) := by
  have level (v : Verdict) (text : String) : (v.withDetail "session" (.string text)).details.get?
      "auth_level" = v.details.get? "auth_level" := by
    rw [Verdict.withDetail, Json.Members.get?_insert, if_neg (by decide)]
  have granted : (grant (a.accessFor q.relation) q).details.get? "auth_level" =
      some (.string (a.accessFor q.relation).name) := rfl
  rw [admits, Bool.or_eq_true, Bool.not_eq_true'] at h
  cases needed : (a.accessFor q.relation).needsKey q.requireWrite with
  | false =>
    rw [authorize_of_open env name a q needed]
    exact ⟨rfl, rfl, granted⟩
  | true =>
    rw [authorize_of_covers env name a q needed (h.resolve_left (by simp [needed]))]
    exact ⟨rfl, rfl, (level _ _).trans granted⟩

theorem authorize_of_not_admits (h : a.admits env q = false) :
    ∃ message, a.authorize env name q = .denied 403 message := by
  rw [admits, Bool.or_eq_false_iff, Bool.not_eq_false'] at h
  exact authorize_of_uncovered env name a q h.1 h.2

theorem authorize_success : (a.authorize env name q).success = a.admits env q := by
  cases admitted : a.admits env q with
  | true => exact (authorize_of_admits env name a q admitted).1
  | false =>
    obtain ⟨message, denied⟩ := authorize_of_not_admits env name a q admitted
    rw [denied]
    rfl

end Ruling

end Account

end QueryGateway
