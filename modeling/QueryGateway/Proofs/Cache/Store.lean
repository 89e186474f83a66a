import QueryGateway.Proofs.Cache.Expiry

/-! What a memory holds after an entry was set, and after a purge.

A memory has one entry for a key (`OnePerKey`); so a purge, which drops what has expired, is
not seen by anyone who asks later (`get?_purge`). -/
namespace QueryGateway.Cache

/-! ### Lists that grow at the end -/

theorem eq_of_concat_eq_append {α : Type} {log before after : List α} {last m : α}
    (h : log ++ [last] = before ++ m :: after) : (before = log ∧ m = last ∧ after = []) ∨
      ∃ after', after = after' ++ [last] ∧ log = before ++ m :: after' := by
  rcases List.eq_nil_or_concat after with rfl | ⟨after', x, rfl⟩
  · obtain ⟨rfl, same⟩ := List.append_inj' h rfl
    cases same
    exact .inl ⟨rfl, rfl, rfl⟩
  · rw [List.concat_eq_append, ← List.cons_append, ← List.append_assoc] at h
    obtain ⟨same, last⟩ := List.append_inj' h rfl
    cases last
    exact .inr ⟨after', List.concat_eq_append, same⟩

theorem findSome?_reverse_concat {α β : Type} (f : α → Option β) (log : List α) (last : α) :
    (log ++ [last]).reverse.findSome? f = (f last).or (log.reverse.findSome? f) := by
  rw [List.reverse_concat, List.findSome?_cons]
  cases f last <;> rfl

/-- What is found last in a list is found nowhere behind. -/
theorem findSome?_reverse_eq_some {α β : Type} {f : α → Option β} {log : List α} {b : β} :
    log.reverse.findSome? f = some b ↔ ∃ before found since, log = before ++ found :: since ∧
      f found = some b ∧ ∀ a ∈ since, f a = none := by
  rw [List.findSome?_eq_some_iff]
  constructor
  · intro parts
    obtain ⟨since, found, before, same, hfound, hsince⟩ := parts
    refine ⟨before.reverse, found, since.reverse, ?_, hfound, fun a ha => ?_⟩
    · rw [← List.reverse_reverse log, same]
      simp
    · exact hsince a (List.mem_reverse.mp ha)
  · intro parts
    obtain ⟨before, found, since, rfl, hfound, hsince⟩ := parts
    refine ⟨since.reverse, found, before.reverse, by simp, hfound, fun a ha => ?_⟩
    exact hsince a (List.mem_reverse.mp ha)

/-! ### Entries in memory -/

namespace Memory

theorem lookup_set (key other : Key) (e : Entry) (entries : List (Key × Entry)) :
    (set key e entries).lookup other = if other = key then some e else entries.lookup other := by
  induction entries with
  | nil =>
    rw [set, List.lookup_cons]
    cases h : other == key with
    | true => rw [if_pos (beq_iff_eq.mp h)]
    | false => rw [if_neg (beq_eq_false_iff_ne.mp h)]
  | cons first rest ih =>
    obtain ⟨k, v⟩ := first
    rw [set]
    split
    · subst k
      rw [List.lookup_cons, List.lookup_cons]
      cases h : other == key with
      | true => rw [if_pos (beq_iff_eq.mp h)]
      | false => rw [if_neg (beq_eq_false_iff_ne.mp h)]
    · rename_i different
      rw [List.lookup_cons, List.lookup_cons, ih]
      cases h : other == k with
      | true =>
        have found : other = k := beq_iff_eq.mp h
        subst found
        exact (if_neg different).symm
      | false => rfl

/-- No key has two entries. -/
def OnePerKey (m : Memory) : Prop := (m.entries.map Prod.fst).Nodup

theorem onePerKey_empty : OnePerKey {} := List.nodup_nil

theorem mem_keys_set {key other : Key} {e : Entry} {entries : List (Key × Entry)} :
    other ∈ (set key e entries).map Prod.fst ↔ other = key ∨ other ∈ entries.map Prod.fst := by
  induction entries with
  | nil => simp [set]
  | cons first rest ih =>
    rw [set]
    split
    · rename_i same
      simp [← same]
    · rw [List.map_cons, List.mem_cons, ih, List.map_cons, List.mem_cons]
      exact or_left_comm

theorem nodup_keys_set (key : Key) (e : Entry) {entries : List (Key × Entry)}
    (h : (entries.map Prod.fst).Nodup) : ((set key e entries).map Prod.fst).Nodup := by
  induction entries with
  | nil => exact List.pairwise_singleton _ _
  | cons first rest ih =>
    obtain ⟨fresh, others⟩ := List.nodup_cons.mp h
    rw [set]
    split
    · rename_i same
      exact List.nodup_cons.mpr ⟨same ▸ fresh, others⟩
    · rename_i different
      refine List.nodup_cons.mpr ⟨fun found => ?_, ih others⟩
      rcases mem_keys_set.mp found with same | found
      · exact different same
      · exact fresh found

/-- Of entries with different keys, one that passes a test is found among those that pass. -/
theorem lookup_filter {entries : List (Key × Entry)} (h : (entries.map Prod.fst).Nodup)
    (passes : Entry → Bool) (key : Key) :
    (entries.filter fun x => passes x.2).lookup key = (entries.lookup key).filter passes := by
  induction entries with
  | nil => rfl
  | cons first rest ih =>
    obtain ⟨k, v⟩ := first
    obtain ⟨fresh, others⟩ := List.nodup_cons.mp h
    have rest_eq := ih others
    rw [List.filter_cons, List.lookup_cons]
    cases found : key == k with
    | true =>
      have same : key = k := beq_iff_eq.mp found
      have absent : rest.lookup key = none := by
        refine List.lookup_eq_none_iff.mpr fun x hx => bne_iff_ne.mpr fun same' => ?_
        exact fresh (List.mem_map.mpr ⟨x, hx, same'.symm.trans same⟩)
      rw [absent] at rest_eq
      cases passed : passes v with
      | true => simp [List.lookup_cons, found, Option.filter, passed]
      | false => simp [rest_eq, Option.filter, passed]
    | false =>
      cases passes v with
      | true => simp [List.lookup_cons, found, rest_eq]
      | false => simp [rest_eq]

section Operations

variable {m : Memory} {now : Instant}

theorem OnePerKey.put (h : m.OnePerKey) (now : Instant) (key : Key) (payload : List UInt8)
    (ttl : Span) : (m.put now key payload ttl).OnePerKey :=
  nodup_keys_set key ⟨payload, now, ttl⟩ h

theorem OnePerKey.purge (h : m.OnePerKey) (now : Instant) : (m.purge now).OnePerKey :=
  h.sublist (List.filter_sublist.map _)

/-- What is kept is found at once and later, until it expires. -/
theorem get?_put (m : Memory) (now : Instant) (key other : Key) (payload : List UInt8)
    (ttl : Span) (later : Instant) :
    (m.put now key payload ttl).get? later other =
      if other = key then (some ⟨payload, now, ttl⟩).filter fun e => !e.isExpired later
      else m.get? later other := by
  rw [get?, Memory.put, lookup_set, apply_ite (Option.filter _)]
  rfl

/-- A purge is not seen by anyone who asks later. -/
theorem get?_purge (h : m.OnePerKey) {later : Instant} (forward : now.notAfter later = true)
    (key : Key) : (m.purge now).get? later key = m.get? later key := by
  rw [get?, Memory.purge, lookup_filter h (fun e => !e.isExpired now), Option.filter_filter, get?]
  congr 1
  funext e
  cases expired : e.isExpired now with
  | true => simp [Entry.isExpired_of_notAfter expired forward]
  | false => simp

end Operations

end Memory

end QueryGateway.Cache
