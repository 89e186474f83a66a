import QueryGateway.Gateway
import QueryGateway.Proofs.Account.Ruling
import QueryGateway.Proofs.Json.Extension

/-! What collaborators add beside the fields that the gateway sets.

An authorizer's details stand beside the verdict in its summary, and what an executor adds stands
beside the envelope's own fields. Both are set last, so an added field takes the place of an own
one of the same name: an own field is kept exactly if nothing was added under its name, or what was
added last is the same (`own_fields_kept_iff`). The authorizer of the accounts adds nothing under
these names (`Account.summary_authorize`). -/
namespace QueryGateway

open Json

/-- The value that a key was set to last. -/
def lastAdded? (added : List (String × Json)) (key : String) : Option Json :=
  added.reverse.lookup key

/-- Nothing was added under the key of a field, or what was added last is the field's own value. -/
def Spares (added : List (String × Json)) (key : String) (own : Option Json) : Prop :=
  ∀ value, lastAdded? added key = some value → own = some value

theorem lastAdded?_eq_none_iff {added : List (String × Json)} {key : String} :
    lastAdded? added key = none ↔ ∀ m ∈ added, m.1 ≠ key := by
  rw [lastAdded?, List.lookup_eq_none_iff]
  simp only [List.mem_reverse, bne_iff_ne, ne_comm]

theorem or_eq_iff_spares {added : List (String × Json)} {key : String} {own : Option Json} :
    (lastAdded? added key).or own = own ↔ Spares added key own := by
  rw [Spares]
  cases lastAdded? added key with
  | none => exact iff_of_true rfl nofun
  | some value =>
    refine ⟨fun h _ eq => ?_, fun h => (h value rfl).symm⟩
    cases eq
    exact h.symm

/-! ### Verdicts -/

namespace Verdict

/-- A verdict as an authorizer starts it: access is granted, or denied with a code and a
message. -/
def ruled : Option (UInt16 × String) → Verdict
  | none => granted
  | some (code, message) => denied code message

/-- A verdict with details set one after the other. -/
def withDetails (v : Verdict) (details : List (String × Json)) : Verdict :=
  details.foldl (fun v (key, value) => v.withDetail key value) v

/-- The fields of a verdict that its summary shows. -/
def shown (v : Verdict) : List (String × Option Json) :=
  [("success", some (.bool v.success)), ("message", v.message.map .string)]

theorem withDetails_eq (v : Verdict) (details : List (String × Json)) :
    v.withDetails details = { v with details := Members.extend v.details details } := by
  induction details generalizing v with
  | nil => rfl
  | cons m rest ih => exact ih (v.withDetail m.1 m.2)

/-- A detail is found in the summary under its key, and a field of the verdict if there is none. -/
theorem get?_summary (v : Verdict) (key : String) :
    Members.get? v.summary key = (lastAdded? v.details key).or (v.shown.lookup key).join := by
  have own : ("success", Json.bool v.success) ::
      (v.message.map fun m => ("message", Json.string m)).toList = Members.present v.shown := by
    cases hm : v.message <;> simp [Members.present, shown, hm]
  rw [summary, own, Members.get?_extend, Members.ofList,
    Members.get?_extend_present (by simp [shown])]
  exact congrArg _ Option.or_none

theorem get?_summary_withDetails (denial : Option (UInt16 × String))
    (details : List (String × Json)) (key : String) :
    Members.get? ((ruled denial).withDetails details).summary key =
      (lastAdded? details key).or ((ruled denial).shown.lookup key).join := by
  have fresh : (ruled denial).details = [] := by
    rcases denial with - | ⟨code, message⟩ <;> rfl
  rw [withDetails_eq, get?_summary, fresh]
  congr 1
  have once := (Members.sorted_ofList details).lookup_reverse key
  exact once.trans ((Members.get?_extend [] details key).trans Option.or_none)

end Verdict

namespace Account

variable (env : Environment) (name : String) (a : Account) (q : Question)

/-- What the authorizer of the accounts adds to its verdicts. -/
theorem details_authorize : ∀ m ∈ (a.authorize env name q).details,
    m.1 = "auth_level" ∨ m.1 = "checked_relations" ∨ m.1 = "session" := by
  have granted : ∀ m ∈ (grant (a.accessFor q.relation) q).details,
      m.1 = "auth_level" ∨ m.1 = "checked_relations" := by
    intro m hm
    rcases Members.mem_insert hm with rfl | hm
    · exact .inr rfl
    · obtain rfl := List.mem_singleton.mp hm
      exact .inl rfl
  intro m hm
  cases needed : (a.accessFor q.relation).needsKey q.requireWrite with
  | false =>
    rw [authorize_of_open env name a q needed] at hm
    exact (granted m hm).imp_right .inl
  | true =>
    cases covered : a.covers env q with
    | true =>
      rw [authorize_of_covers env name a q needed covered] at hm
      rcases Members.mem_insert hm with rfl | hm
      · exact .inr (.inr rfl)
      · exact (granted m hm).imp_right .inl
    | false =>
      obtain ⟨message, denied⟩ := authorize_of_uncovered env name a q needed covered
      rw [denied] at hm
      cases hm

/-- The authorizer of the accounts takes the place of no field of its verdicts. -/
theorem summary_authorize :
    let v := a.authorize env name q
    Members.get? v.summary "code" = none ∧
      Members.get? v.summary "success" = some (.bool v.success) ∧
      Members.get? v.summary "message" = v.message.map .string := by
  have other : ∀ key, key ≠ "auth_level" → key ≠ "checked_relations" → key ≠ "session" →
      lastAdded? (a.authorize env name q).details key = none := by
    intro key level relations session
    refine lastAdded?_eq_none_iff.mpr fun m hm same => ?_
    rcases details_authorize env name a q m hm with h | h | h
    · exact level (same.symm.trans h)
    · exact relations (same.symm.trans h)
    · exact session (same.symm.trans h)
  refine ⟨?_, ?_, ?_⟩ <;>
    rw [Verdict.get?_summary, other _ (by decide) (by decide) (by decide), Option.none_or] <;> rfl

end Account

/-! ### Envelopes -/

namespace Envelope

/-- The envelope's own fields. -/
def fields (e : Envelope) : List (String × Option Json) :=
  [("success", some (.bool e.success)), ("code", e.code.map fun c => .ofNat c.toNat),
    ("message", e.message.map .string), ("data", e.data),
    ("affected_rows", e.affectedRows.map .ofNat), ("cache_hit", e.cacheHit.map CacheStatus.toJson),
    ("auth_check", e.authCheck.map .object), ("peak_memory_usage", e.peakMemoryUsage.map .string)]

theorem map_fst_fields (e : Envelope) : e.fields.map Prod.fst = fieldNames := rfl

theorem ownMembers_eq (e : Envelope) : e.ownMembers = Members.present e.fields := by
  simp [ownMembers, Members.present, fields, Function.comp_def]

/-- An added field is found in the envelope under its key, and an own one if there is none. -/
theorem get?_toJson (e : Envelope) (key : String) :
    e.toJson.get? key = (lastAdded? e.extra key).or (e.fields.lookup key).join := by
  rw [toJson, Json.get?, Members.get?_extend, ownMembers_eq, Members.ofList,
    Members.get?_extend_present (by rw [map_fst_fields]; decide)]
  exact congrArg _ Option.or_none

end Envelope

/-- **Own fields are kept exactly if nothing else was added under their names**: those of a
verdict in its summary, from which the code is left out, and those of the envelope of an outcome,
whatever they are. -/
theorem own_fields_kept_iff (denial : Option (UInt16 × String)) (details : List (String × Json))
    (g : Gateway) (o : Outcome) (verdict : Option Verdict) (cache : Option CacheStatus) :
    (let v := Verdict.ruled denial
      let check := (v.withDetails details).summary
      (Members.get? check "code" = none ↔ ∀ m ∈ details, m.1 ≠ "code") ∧
      (Members.get? check "success" = some (.bool v.success) ↔
        Spares details "success" (some (.bool v.success))) ∧
      (Members.get? check "message" = v.message.map .string ↔
        Spares details "message" (v.message.map .string))) ∧
    (let v := (g.success o verdict cache).toJson
      let affected := o.affectedRows.map Json.ofNat
      let hit := cache.map CacheStatus.toJson
      let check := verdict.map fun v => Json.object v.summary
      (v.get? "success" = some (.bool true) ↔ Spares o.extra "success" (some (.bool true))) ∧
      (v.get? "data" = some o.data ↔ Spares o.extra "data" (some o.data)) ∧
      (v.get? "affected_rows" = affected ↔ Spares o.extra "affected_rows" affected) ∧
      (v.get? "cache_hit" = hit ↔ Spares o.extra "cache_hit" hit) ∧
      (v.get? "auth_check" = check ↔ Spares o.extra "auth_check" check)) := by
  constructor
  · have found := Verdict.get?_summary_withDetails denial details
    refine ⟨?_, ?_, ?_⟩
    · rw [found, ← lastAdded?_eq_none_iff]
      exact Option.or_eq_none_iff.trans (and_iff_left rfl)
    all_goals
      rw [found]
      exact or_eq_iff_spares
  · have found := Envelope.get?_toJson (g.success o verdict cache)
    have own : ((g.success o verdict cache).fields.lookup "auth_check").join =
        verdict.map fun v => Json.object v.summary := by
      cases verdict <;> rfl
    refine ⟨?success, ?data, ?affected, ?hit, ?check⟩
    case check =>
      rw [found, own]
      exact or_eq_iff_spares
    all_goals
      rw [found]
      exact or_eq_iff_spares

/-- Details can turn a denial into a grant in what the caller sees, and show a code; what an
executor adds can turn a success into a failure. -/
theorem added_fields_forge :
    let check := ((Verdict.denied 403 "no").withDetails
      [("success", .bool true), ("code", .ofNat 200)]).summary
    let v := (Gateway.success {} { data := .null, extra := [("success", .bool false)] } none none).toJson
    Members.get? check "success" = some (.bool true) ∧
      Members.get? check "code" = some (.ofNat 200) ∧ v.get? "success" = some (.bool false) :=
  ⟨rfl, rfl, rfl⟩

end QueryGateway
