import QueryGateway.Http.Service
import QueryGateway.Proofs.Cache.Key
import QueryGateway.Proofs.Except

/-! The addresses of accounts and of their subusers.

A valid configuration has no `@` in the name of an account, so the last `@` of an address stands
before the account's name, and no two identities share an address. An address is split at its first
`@`, though, and the names of subusers may have one: an address leads to whom it is the address of
exactly if the subuser's name has none, and to nobody else (`addressable_iff`). -/
namespace QueryGateway

/-! ### Names of accounts -/

namespace Config

variable {c : Config} {env : Environment}

theorem validate_eq_ok : c.validate env = .ok () ↔ c.accounts.isEmpty = false ∧
    (∀ m ∈ c.accounts, validateAccount env m.1 m.2 = .ok ()) ∧
    (c.caching.enabled && c.caching.purgeIntervalSecs = 0) = false := by
  have stages : c.validate env =
      (if c.accounts.isEmpty then .error .noAccount else .ok ()) >>= fun _ =>
        (c.accounts.forM fun m => validateAccount env m.1 m.2) >>= fun _ =>
          if c.caching.enabled && c.caching.purgeIntervalSecs = 0 then .error .noPurge
          else .ok () := by
    rw [validate]
    cases c.accounts.isEmpty <;> rfl
  rw [stages, except_then_eq_ok, except_then_eq_ok, except_forM_eq_ok]
  cases c.accounts.isEmpty <;> cases c.caching.enabled && c.caching.purgeIntervalSecs = 0 <;> simp

/-- Names of accounts in a valid configuration have no `@`. -/
theorem at_notMem_of_validate (valid : c.validate env = .ok ()) {name : String} {a : Account}
    (entry : (name, a) ∈ c.accounts) : '@' ∉ name.toList := by
  have checked : validateAccount env name a = .ok () := (validate_eq_ok.mp valid).2.1 _ entry
  intro marked
  rw [validateAccount, if_pos (List.contains_iff_mem.mpr marked)] at checked
  cases checked

end Config

/-! ### Splitting -/

theorem plain_of_atless {cs : List Char} (h : '@' ∉ cs) : ∀ c ∈ cs, decide (c ≠ '@') = true :=
  fun _ hc => decide_eq_true fun same => h (same ▸ hc)

theorem splitUser_of_atless {user : String} (h : '@' ∉ user.toList) :
    splitUser user = (none, user) := by
  have all : user.toList.dropWhile (· ≠ '@') = [] := by
    rw [← List.append_nil user.toList, List.dropWhile_append_of_pos (plain_of_atless h)]
    rfl
  rw [splitUser, all]

/-- What an address is split into at its first `@`. -/
theorem splitUser_append {front : List Char} (h : '@' ∉ front) (back : List Char) :
    splitUser (String.ofList (front ++ '@' :: back)) =
      if front.isEmpty || back.isEmpty then (none, String.ofList (front ++ '@' :: back))
      else (some (String.ofList front), String.ofList back) := by
  have before : (front ++ '@' :: back).takeWhile (· ≠ '@') = front := by
    rw [List.takeWhile_append_of_pos (plain_of_atless h)]
    exact List.append_nil front
  have behind : (front ++ '@' :: back).dropWhile (· ≠ '@') = '@' :: back := by
    rw [List.dropWhile_append_of_pos (plain_of_atless h)]
    rfl
  rw [splitUser, String.toList_ofList, before, behind]

/-! ### Identities -/

/-- One for whom requests can be made: an account, or a subuser of it. -/
structure Identity where
  subuser : Option String := none
  account : String
  deriving DecidableEq, Repr

namespace Identity

/-- The name under which requests are made for an identity. -/
def address (i : Identity) : String :=
  match i.subuser with
  | none => i.account
  | some u => u ++ "@" ++ i.account

/-- A configuration has the account, and the subuser in it; neither has an empty name. -/
structure Configured (c : Config) (i : Identity) : Prop where
  named : i.account ≠ ""
  entry : ∃ a, (i.account, a) ∈ c.accounts ∧
    ∀ u, i.subuser = some u → u ≠ "" ∧ ∃ s, (u, s) ∈ a.subusers

/-- The subuser, if there is one, has a name without an `@`. -/
def Plain (i : Identity) : Prop := ∀ u, i.subuser = some u → '@' ∉ u.toList

section Configured

variable {c : Config} {env : Environment} {i j : Identity}

theorem Configured.account_atless (valid : c.validate env = .ok ()) (h : i.Configured c) :
    '@' ∉ i.account.toList := by
  obtain ⟨a, entry, -⟩ := h.entry
  exact Config.at_notMem_of_validate valid entry

theorem address_some (u account : String) :
    address ⟨some u, account⟩ = String.ofList (u.toList ++ '@' :: account.toList) := by
  rw [← String.toList_inj, String.toList_ofList]
  simp [address]

/-- A plain identity is what its address is split into. -/
theorem Configured.split_of_plain (valid : c.validate env = .ok ()) (h : i.Configured c)
    (plain : i.Plain) : splitUser i.address = (i.subuser, i.account) := by
  obtain ⟨subuser, account⟩ := i
  cases subuser with
  | none => exact splitUser_of_atless (h.account_atless valid)
  | some u =>
    obtain ⟨a, -, share⟩ := h.entry
    have filled : u.toList.isEmpty = false := by
      simpa using (share u rfl).1
    have named : account.toList.isEmpty = false := by
      simpa using h.named
    rw [address_some, splitUser_append (plain u rfl), filled, named]
    simp

/-- Of an address with an `@` in the subuser's name, one is left in what is taken for the
account. -/
theorem at_mem_split {u : String} (marked : '@' ∈ u.toList) (account : String) :
    '@' ∈ (splitUser (address ⟨some u, account⟩)).2.toList := by
  obtain ⟨front, back, whole, first⟩ := List.eq_append_cons_of_mem marked
  have parts : u.toList ++ '@' :: account.toList = front ++ '@' :: (back ++ '@' :: account.toList) := by
    rw [whole, List.append_assoc]
    rfl
  rw [address_some, parts, splitUser_append first]
  split
  · simp
  · simp

theorem Configured.split_iff (valid : c.validate env = .ok ()) (h : i.Configured c) :
    splitUser i.address = (i.subuser, i.account) ↔ i.Plain := by
  refine ⟨fun split u shared marked => ?_, h.split_of_plain valid⟩
  obtain ⟨subuser, account⟩ := i
  obtain rfl : subuser = some u := shared
  have left := at_mem_split marked account
  rw [split] at left
  exact h.account_atless valid left

/-- No two identities have one address. -/
theorem Configured.eq_of_address_eq (valid : c.validate env = .ok ()) (hi : i.Configured c)
    (hj : j.Configured c) (same : i.address = j.address) : i = j := by
  have atlessI := hi.account_atless valid
  have atlessJ := hj.account_atless valid
  have marked : ∀ u account, '@' ∈ (address ⟨some u, account⟩).toList := by
    intro u account
    simp [address]
  obtain ⟨subuserI, accountI⟩ := i
  obtain ⟨subuserJ, accountJ⟩ := j
  cases subuserI with
  | none =>
    cases subuserJ with
    | none => exact congrArg (Identity.mk none) same
    | some u =>
      have left := marked u accountJ
      rw [← same] at left
      exact absurd left atlessI
  | some u =>
    cases subuserJ with
    | none =>
      have left := marked u accountI
      rw [same] at left
      exact absurd left atlessJ
    | some v =>
      rw [address_some, address_some, String.ofList_inj,
        Cache.append_separator_inj atlessI atlessJ, String.toList_inj, String.toList_inj] at same
      obtain ⟨rfl, rfl⟩ := same
      rfl

end Configured

end Identity

/-! ### Requests -/

section Requests

variable {p : Params} {subuser apiKey : Option String} {t : Request}

theorem Params.subuser_of_template (h : p.template subuser apiKey = .ok t) :
    t.subuser = subuser := by
  obtain ⟨_, _, h⟩ := except_bind_eq_ok.mp h
  obtain ⟨_, _, h⟩ := except_bind_eq_ok.mp h
  obtain ⟨_, _, h⟩ := except_bind_eq_ok.mp h
  cases h
  rfl

theorem Params.subuser_of_request (h : p.request subuser apiKey = .ok t) :
    t.subuser = subuser := by
  obtain ⟨_, _, h⟩ := except_bind_eq_ok.mp h
  obtain ⟨_, made, h⟩ := except_bind_eq_ok.mp h
  cases h
  have kept := Params.subuser_of_template made
  exact kept

end Requests

namespace Http.Service

variable {s : Service} {user : String} {request : QueryGateway.Request} {account : AccountContext}

/-- An account that a name leads to is configured under that name. -/
theorem mem_of_resolve {name : String} (h : s.resolve name = .ok account) :
    account.name = name ∧ ∃ a, (name, a) ∈ s.directory := by
  unfold resolve at h
  split at h
  · rename_i found
    cases h
    obtain ⟨a, stored, rfl⟩ := Option.map_eq_some_iff.mp found
    obtain ⟨before, behind, whole, _⟩ := List.lookup_eq_some_iff.mp stored
    exact ⟨rfl, a, whole ▸ List.mem_append_right before List.mem_cons_self⟩
  · cases h

/-- A request is made for what the address was split into. -/
def MadeFor (s : Service) (user : String) (request : QueryGateway.Request)
    (account : AccountContext) : Prop :=
  (∃ params r, s.statementRequest user params r = .ok (request, account)) ∨
    ∃ r, s.batchRequest user r = .ok (request, account)

theorem split_of_madeFor (h : s.MadeFor user request account) :
    splitUser user = (request.subuser, account.name) ∧
      ∃ a, (account.name, a) ∈ s.directory := by
  rcases h with ⟨params, r, h⟩ | ⟨r, h⟩
  · obtain ⟨_, made, h⟩ := except_bind_eq_ok.mp h
    obtain ⟨_, found, h⟩ := except_bind_eq_ok.mp h
    cases h
    obtain ⟨named, entry⟩ := mem_of_resolve found
    rw [Params.subuser_of_request made, named]
    exact ⟨rfl, entry⟩
  · obtain ⟨_, made, h⟩ := except_bind_eq_ok.mp h
    obtain ⟨_, found, h⟩ := except_bind_eq_ok.mp h
    cases h
    obtain ⟨named, entry⟩ := mem_of_resolve found
    rw [Params.subuser_of_template made, named]
    exact ⟨rfl, entry⟩

end Http.Service

/-- **An identity of a valid configuration is reached by its address exactly if its subuser's name,
if it has one, has no `@`.** No two identities have one address, and a request under the address of
one is refused or made for it. -/
theorem addressable_iff {c : Config} {env : Environment} (valid : c.validate env = .ok ()) :
    (∀ i : Identity, i.Configured c →
      (splitUser i.address = (i.subuser, i.account) ↔ i.Plain)) ∧
    (∀ i j : Identity, i.Configured c → j.Configured c → i.address = j.address → i = j) ∧
    ∀ (i : Identity) (s : Http.Service) (request : Request) (account : AccountContext),
      i.Configured c → s.directory = c.accounts → s.MadeFor i.address request account →
        request.subuser = i.subuser ∧ account.name = i.account := by
  refine ⟨fun i h => h.split_iff valid, fun i j hi hj => hi.eq_of_address_eq valid hj, ?_⟩
  intro i s request account configured serves made
  obtain ⟨split, a, entry⟩ := Http.Service.split_of_madeFor made
  have atless : '@' ∉ account.name.toList := Config.at_notMem_of_validate valid (serves ▸ entry)
  have plain : i.Plain := by
    intro u shared marked
    obtain ⟨subuser, name⟩ := i
    obtain rfl : subuser = some u := shared
    have left := Identity.at_mem_split marked name
    rw [split] at left
    exact atless left
  rw [configured.split_of_plain valid plain] at split
  exact ⟨(congrArg Prod.fst split).symm, (congrArg Prod.snd split).symm⟩

/-- Two accounts; of one's subusers one has an `@` in the name. -/
def surveyConfig : Config :=
  { accounts :=
      [("roads", { key := { literal := some "k" }, subusers := [("surveyor", {}), ("a@b", {})] }),
       ("parcels", { key := { literal := some "l" } })] }

theorem surveyor_addressed :
    surveyConfig.validate (fun _ => none) = .ok () ∧
      Identity.Configured surveyConfig ⟨some "surveyor", "roads"⟩ ∧
      splitUser "surveyor@roads" = (some "surveyor", "roads") := by
  have valid : surveyConfig.validate (fun _ => none) = .ok () := rfl
  have configured : Identity.Configured surveyConfig ⟨some "surveyor", "roads"⟩ := by
    refine ⟨by decide, _, List.mem_cons_self, ?_⟩
    rintro u ⟨⟩
    exact ⟨by decide, _, List.mem_cons_self⟩
  refine ⟨valid, configured, ((addressable_iff valid).1 _ configured).mpr ?_⟩
  rintro u ⟨⟩
  decide

/-- A subuser with an `@` in the name is taken for another one, of an account that there is not. -/
theorem marked_subuser_not_addressed :
    surveyConfig.validate (fun _ => none) = .ok () ∧
      Identity.Configured surveyConfig ⟨some "a@b", "roads"⟩ ∧
      splitUser (Identity.address ⟨some "a@b", "roads"⟩) = (some "a", "b@roads") := by
  refine ⟨rfl, ⟨by decide, _, List.mem_cons_self, ?_⟩, by decide⟩
  rintro u ⟨⟩
  exact ⟨by decide, _, List.mem_cons_of_mem _ List.mem_cons_self⟩

end QueryGateway
