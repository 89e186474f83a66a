import QueryGateway.Proofs.Json.Extension
import QueryGateway.Request.Params

/-! What parameters hold.

Of the values that a key was set to, the last one counts that is not empty (`get?_insertAll`).
Everything that is made of parameters depends on no more than what their keys hold
(`Agrees.request`), and a statement is never blank (`statement_cases`). -/
namespace QueryGateway.Params

/-! ### The last value that is not empty -/

/-- The last value of a key, those that are empty left out. -/
def lastFilled (key : String) (pairs : List (String × String)) : Option String :=
  ((pairs.filter fun p => p.1 = key && p.2 ≠ "").map Prod.snd).getLast?

theorem lastFilled_append (key : String) (front back : List (String × String)) :
    lastFilled key (front ++ back) = (lastFilled key back).or (lastFilled key front) := by
  rw [lastFilled, List.filter_append, List.map_append, List.getLast?_append]
  rfl

theorem lastFilled_singleton (key other value : String) :
    lastFilled key [(other, value)] = if other = key ∧ value ≠ "" then some value else none := by
  rw [lastFilled, List.filter_cons]
  by_cases here : other = key ∧ value ≠ ""
  · rw [if_pos (by simpa using here), if_pos here]
    rfl
  · rw [if_neg (by simpa using here), if_neg here]
    rfl

theorem lastFilled_cons (key other value : String) (rest : List (String × String)) :
    lastFilled key ((other, value) :: rest) =
      (lastFilled key rest).or (if other = key ∧ value ≠ "" then some value else none) := by
  rw [← List.singleton_append, lastFilled_append, lastFilled_singleton]

theorem lastFilled_eq_none_iff {key : String} {pairs : List (String × String)} :
    lastFilled key pairs = none ↔ ∀ value, (key, value) ∈ pairs → value = "" := by
  rw [lastFilled, List.getLast?_eq_none_iff, List.map_eq_nil_iff, List.filter_eq_nil_iff]
  constructor
  · intro empty value hv
    exact Decidable.of_not_not fun filled => empty _ hv (by simp [filled])
  · rintro empty ⟨other, value⟩ hv here
    obtain ⟨rfl, filled⟩ : other = key ∧ value ≠ "" := by simpa using here
    exact filled (empty value hv)

/-- A value that is not empty is the last one if none behind it is another. -/
theorem lastFilled_of_last {key value : String} {behind : List (String × String)}
    (filled : value ≠ "") (last : lastFilled key behind = none)
    (front : List (String × String)) :
    lastFilled key (front ++ (key, value) :: behind) = some value := by
  rw [lastFilled_append, lastFilled_cons, last, if_pos ⟨rfl, filled⟩]
  rfl

/-- A key that is there once has no other value than the one it has there. -/
theorem lastFilled_of_nodup {pairs : List (String × String)}
    (distinct : (pairs.map Prod.fst).Nodup) (key : String) :
    lastFilled key pairs = (pairs.lookup key).filter (· ≠ "") := by
  induction pairs with
  | nil => rfl
  | cons pair rest ih =>
    obtain ⟨other, value⟩ := pair
    obtain ⟨fresh, distinct⟩ := List.nodup_cons.mp distinct
    rw [lastFilled_cons, ih distinct, List.lookup_cons]
    by_cases here : other = key
    · subst here
      have absent : rest.lookup other = none :=
        List.lookup_eq_none_iff.mpr fun p hp =>
          bne_iff_ne.mpr fun same => fresh (List.mem_map.mpr ⟨p, hp, same.symm⟩)
      rw [absent, beq_self_eq_true]
      by_cases filled : value = "" <;> simp [Option.filter, filled]
    · rw [if_neg fun h => here h.1, beq_eq_false_iff_ne.mpr (Ne.symm here)]
      exact Option.or_none

/-! ### Parameters that are set -/

theorem lookup_set (key value other : String) (pairs : List (String × String)) :
    (set key value pairs).lookup other = if other = key then some value else pairs.lookup other := by
  induction pairs with
  | nil =>
    rw [set, List.lookup_cons]
    by_cases here : other = key
    · rw [if_pos here, beq_iff_eq.mpr here]
    · rw [if_neg here, beq_eq_false_iff_ne.mpr here]
  | cons pair rest ih =>
    obtain ⟨k, v⟩ := pair
    rw [set]
    by_cases same : k = key
    · rw [if_pos same, List.lookup_cons, List.lookup_cons, same]
      by_cases here : other = key
      · rw [if_pos here, beq_iff_eq.mpr here]
      · rw [if_neg here, beq_eq_false_iff_ne.mpr here]
    · rw [if_neg same, List.lookup_cons, ih, List.lookup_cons]
      by_cases first : other = k
      · rw [beq_iff_eq.mpr first]
        exact (if_neg fun here => same (first.symm.trans here)).symm
      · rw [beq_eq_false_iff_ne.mpr first]

theorem get?_insert (p : Params) (key value other : String) :
    (p.insert key value).get? other = (lastFilled other [(key, value)]).or (p.get? other) := by
  rw [lastFilled_singleton, insert]
  by_cases filled : value = ""
  · rw [if_pos (String.isEmpty_iff.mpr filled), if_neg fun h => h.2 filled]
    rfl
  · rw [if_neg fun h => filled (String.isEmpty_iff.mp h)]
    show (set key value p.pairs).lookup other = _
    rw [lookup_set]
    by_cases here : other = key
    · rw [if_pos here, if_pos ⟨here.symm, filled⟩]
      rfl
    · rw [if_neg here, if_neg fun h => here h.1.symm]
      rfl

/-- **Of the values that a key is set to, the last one counts that is not empty; else it keeps the
one that it had.** -/
theorem get?_insertAll (p : Params) (pairs : List (String × String)) (key : String) :
    (p.insertAll pairs).get? key = (lastFilled key pairs).or (p.get? key) := by
  induction pairs generalizing p with
  | nil => rfl
  | cons pair rest ih =>
    have first : p.insertAll (pair :: rest) = (p.insert pair.1 pair.2).insertAll rest := rfl
    rw [first, ih, get?_insert, ← Option.or_assoc, ← lastFilled_append, List.singleton_append]

/-! ### Members of an object -/

/-- The pairs of an object's members: null is none of them, a string is its own value, and every
other value is there as its JSON text. -/
def memberPairs (ms : Json.Members) : List (String × String) :=
  ms.flatMap fun (key, value) =>
    match value with
    | .null => []
    | .string s => [(key, s)]
    | v => [(key, v.render)]

theorem memberPairs_cons (key : String) (value : Json) (ms : Json.Members) :
    memberPairs ((key, value) :: ms) =
      ((textOf? value).map (key, ·)).toList ++ memberPairs ms := by
  rw [memberPairs, List.flatMap_cons, ← memberPairs]
  cases value <;> rfl

theorem mergeJson_object (p : Params) (ms : Json.Members) :
    p.mergeJson (.object ms) = p.insertAll (memberPairs ms) := by
  have pairs : ms.filterMap (fun m => (textOf? m.2).map (m.1, ·)) = memberPairs ms := by
    induction ms with
    | nil => rfl
    | cons m rest ih =>
      rw [memberPairs_cons, ← ih, List.filterMap_cons]
      cases textOf? m.2 <;> rfl
  rw [← pairs]
  rfl

/-- A member has the value that is read as its text. -/
theorem lastFilled_memberPairs {ms : Json.Members} (sorted : ms.Sorted) (key : String) :
    lastFilled key (memberPairs ms) = ((ms.get? key).bind textOf?).filter (· ≠ "") := by
  induction ms with
  | nil => rfl
  | cons m rest ih =>
    obtain ⟨other, value⟩ := m
    obtain ⟨before, sorted⟩ := List.pairwise_cons.mp sorted
    rw [memberPairs_cons, lastFilled_append, ih sorted, Json.Members.get?_cons]
    by_cases here : key = other
    · subst here
      rw [Json.Members.get?_eq_none_of_before before, if_pos rfl]
      show lastFilled key ((textOf? value).map (key, ·)).toList = (textOf? value).filter _
      cases textOf? value with
      | none => rfl
      | some text =>
        refine (lastFilled_singleton key key text).trans ?_
        by_cases filled : text = "" <;> simp [Option.filter, filled]
    · rw [if_neg here]
      have absent : lastFilled key ((textOf? value).map (other, ·)).toList = none := by
        refine lastFilled_eq_none_iff.mpr fun text ht => ?_
        obtain ⟨_, -, same⟩ := Option.map_eq_some_iff.mp (Option.mem_toList.mp ht)
        exact absurd (congrArg Prod.fst same).symm here
      rw [absent, Option.or_none]

/-- The object in which every key has a text as its value. -/
def textObject (pairs : List (String × String)) : Json.Members :=
  Json.Members.ofList (pairs.map fun p => (p.1, .string p.2))

theorem sorted_textObject (pairs : List (String × String)) : (textObject pairs).Sorted :=
  Json.Members.sorted_ofList _

theorem lookup_map_snd {α β : Type} (f : α → β) (pairs : List (String × α)) (key : String) :
    (pairs.map fun p => (p.1, f p.2)).lookup key = (pairs.lookup key).map f := by
  induction pairs with
  | nil => rfl
  | cons pair rest ih =>
    rw [List.map_cons, List.lookup_cons, List.lookup_cons, ih]
    cases key == pair.1 <;> rfl

/-- An object of texts has the pairs that it is made of, if each key is there once. -/
theorem lastFilled_textObject {pairs : List (String × String)}
    (distinct : (pairs.map Prod.fst).Nodup) (key : String) :
    lastFilled key (memberPairs (textObject pairs)) = lastFilled key pairs := by
  let fields : List (String × Option Json) := pairs.map fun p => (p.1, some (.string p.2))
  have present : pairs.map (fun p => (p.1, Json.string p.2)) = Json.Members.present fields := by
    rw [Json.Members.present, List.flatMap_map]
    exact List.map_eq_flatMap
  have names : (fields.map Prod.fst).Nodup := by
    rw [List.map_map]
    exact distinct
  have found : fields.lookup key = (pairs.lookup key).map fun text => some (.string text) := by
    exact lookup_map_snd (fun text => some (Json.string text)) pairs key
  have value : (textObject pairs).get? key = (pairs.lookup key).map .string := by
    rw [textObject, present]
    refine (Json.Members.get?_extend_present names [] key).trans ?_
    rw [found]
    cases pairs.lookup key <;> rfl
  rw [lastFilled_memberPairs (sorted_textObject pairs), lastFilled_of_nodup distinct, value]
  cases pairs.lookup key <;> rfl

/-! ### What is made of parameters -/

/-- Whether every key holds the same in both. -/
def Agrees (p q : Params) : Prop := ∀ key, p.get? key = q.get? key

section Agreement

variable {p q : Params} (agree : p.Agrees q)

include agree

theorem Agrees.flag (key : String) : p.flag key = q.flag key := by
  rw [Params.flag, Params.flag, agree key]

theorem Agrees.wantsStream : p.wantsStream = q.wantsStream := by
  rw [Params.wantsStream, Params.wantsStream, agree "method"]

theorem Agrees.statement : p.statement = q.statement := by
  rw [Params.statement, Params.statement, agree "q", agree.flag "base64"]

theorem Agrees.template (subuser apiKey : Option String) :
    p.template subuser apiKey = q.template subuser apiKey := by
  rw [Params.template, Params.template, agree "format", agree "geoformat", agree "lifetime",
    agree "client_encoding", agree "srs", agree.flag "allstr", agree.flag "alias",
    agree.wantsStream]

/-- Parameters that hold the same make the same request, or are refused for the same reason. -/
theorem Agrees.request (subuser apiKey : Option String) :
    p.request subuser apiKey = q.request subuser apiKey := by
  rw [Params.request, Params.request, agree.statement, agree.template]

end Agreement

/-- A statement is a text that is not blank; else it is missing. -/
theorem statement_cases (p : Params) :
    (∃ sql, p.statement = .ok sql ∧ Text.isBlankText sql = false) ∨
      p.statement = .error .missingQuery := by
  rw [statement]
  cases p.get? "q" with
  | none => exact .inr rfl
  | some raw =>
    dsimp only
    generalize (if p.flag "base64" then base64Text raw else percentText raw) = sql
    cases filled : Text.isBlankText sql with
    | true => exact .inr rfl
    | false => exact .inl ⟨sql, rfl, filled⟩

end QueryGateway.Params
