import QueryGateway.Proofs.Json.Members
import QueryGateway.Proofs.Json.Scalar

/-! Values are read back from their compact form.

A value is read back if its whole numbers fit 64 bits, it has no real ones, the members of
its objects are in order, and it is not nested too deep; nesting is all that can go wrong
with the others (`readBack`). -/
namespace QueryGateway.Json

/-! ### Regular values -/

/-- The members of an object in the order of their keys, each key once. -/
def Members.Sorted (ms : Members) : Prop := ms.Pairwise fun m n => m.1 < n.1

mutual

/-- Numbers are whole and fit 64 bits, signed or not; members are in order. -/
def Regular : Json → Prop
  | .null | .bool _ | .string _ => True
  | .number (.whole n) => -Nat.pow 2 63 ≤ n ∧ n < Nat.pow 2 64
  | .number (.real _) => False
  | .array items => RegularItems items
  | .object ms => Members.Sorted ms ∧ RegularMembers ms

/-- All items are regular. -/
def RegularItems : List Json → Prop
  | [] => True
  | v :: rest => v.Regular ∧ RegularItems rest

/-- All members are regular. -/
def RegularMembers : List (String × Json) → Prop
  | [] => True
  | (_, v) :: rest => v.Regular ∧ RegularMembers rest

end

mutual

/-- How deep arrays and objects are nested. -/
def depth : Json → Nat
  | .array items => depthItems items + 1
  | .object ms => depthMembers ms + 1
  | _ => 0

/-- How deep items are nested. -/
def depthItems : List Json → Nat
  | [] => 0
  | v :: rest => max v.depth (depthItems rest)

/-- How deep members are nested. -/
def depthMembers : List (String × Json) → Nat
  | [] => 0
  | (_, v) :: rest => max v.depth (depthMembers rest)

end

/-! ### Members in order -/

theorem Members.insert_last {ms : Members} {key : String} (h : ∀ m ∈ ms, m.1 < key) (v : Json) :
    ms.insert key v = ms ++ [(key, v)] := by
  induction ms with
  | nil => rfl
  | cons m rest ih =>
    obtain ⟨k, w⟩ := m
    have before : k < key := h _ (List.mem_cons_self ..)
    rw [Members.insert, if_neg (String.ne_of_lt before).symm, if_neg (String.lt_asymm before),
      ih fun m hm => h m (List.mem_cons_of_mem _ hm)]
    rfl

theorem Members.extend_sorted {front back : Members} (h : (front ++ back).Sorted) :
    front.extend back = front ++ back := by
  induction back generalizing front with
  | nil => rw [List.append_nil]; rfl
  | cons m rest ih =>
    have before : ∀ n ∈ front, n.1 < m.1 := fun n hn =>
      (List.pairwise_append.mp h).2.2 n hn m (List.mem_cons_self ..)
    obtain ⟨k, v⟩ := m
    rw [Members.extend, List.foldl_cons]
    dsimp only
    rw [Members.insert_last before]
    have shifted : front ++ [(k, v)] ++ rest = front ++ (k, v) :: rest := List.append_assoc ..
    exact (ih (shifted ▸ h)).trans shifted

theorem ofMembers_sorted {ms : Members} (h : ms.Sorted) : ofMembers ms = .object ms :=
  have sorted : ([] ++ ms : Members).Sorted := h
  congrArg Json.object (Members.extend_sorted sorted)

/-! ### First characters -/

theorem skipGaps_cons {c : Char} (h : isGap c = false) (cs : List Char) :
    skipGaps (c :: cs) = c :: cs :=
  List.dropWhile_cons_of_neg (by rw [h]; decide)

theorem closed_cons {c : Char} (digit : c.isDigit = false) (other : c ≠ '.' ∧ c ≠ 'e' ∧ c ≠ 'E')
    (rest : List Char) : Closed (c :: rest) := by
  intro d hd
  cases hd
  exact ⟨digit, other⟩

/-- The first character of a value begins no other part of a text. -/
def Begins (c : Char) : Prop := isGap c = false ∧ c ≠ ']' ∧ c ≠ '\x7d'

instance : DecidablePred Begins := fun _ => inferInstanceAs (Decidable (_ ∧ _ ∧ _))

theorem begins_of_isDigit {c : Char} (h : c.isDigit = true) : Begins c := by
  refine ⟨?_, ?_, ?_⟩
  · cases gap : isGap c with
    | false => rfl
    | true =>
      simp only [isGap, Bool.or_eq_true, decide_eq_true_eq] at gap
      rcases gap with ((rfl | rfl) | rfl) | rfl <;> cases h
  all_goals
    intro same
    subst same
    cases h

theorem exists_digits (n : Nat) : ∃ c cs, digits n = c :: cs ∧ c.isDigit = true := by
  obtain ⟨c, cs, h⟩ := List.exists_cons_of_ne_nil (Nat.toDigits_ne_nil (n := n) (b := 10))
  refine ⟨c, cs, h, Nat.isDigit_of_mem_toDigits (b := 10) (n := n) (by decide) (by decide) ?_⟩
  rw [h]
  exact List.mem_cons_self ..

theorem renderChars_begins {v : Json} (h : v.Regular) :
    ∃ c cs, v.renderChars = c :: cs ∧ Begins c := by
  cases v with
  | null => exact ⟨_, _, rfl, by decide⟩
  | bool b => cases b <;> exact ⟨_, _, rfl, by decide⟩
  | number n =>
    cases n with
    | whole n =>
      cases n with
      | ofNat n =>
        obtain ⟨c, cs, hd, digit⟩ := exists_digits n
        exact ⟨c, cs, hd, begins_of_isDigit digit⟩
      | negSucc n => exact ⟨_, _, rfl, by decide⟩
    | real x => cases h
  | string s => exact ⟨_, _, rfl, by decide⟩
  | array items => exact ⟨_, _, rfl, by decide⟩
  | object ms => exact ⟨_, _, rfl, by decide⟩

/-! ### Values -/

section Beginnings

variable (level : Nat) (rest : List Char)

theorem readValue_quote : readValue level ('"' :: rest) =
    (readChars rest).map fun (s, rest) => (.string (String.ofList s), rest) := by
  cases level <;> rfl

theorem readValue_minus : readValue level ('-' :: rest) =
    (readUnsigned true rest).map fun (n, rest) => (.number n, rest) := by
  cases level <;> rfl

theorem readValue_digit {c : Char} (h : c.isDigit = true) : readValue level (c :: rest) =
    (readUnsigned false (c :: rest)).map fun (n, rest) => (.number n, rest) := by
  obtain ⟨gap, _⟩ := begins_of_isDigit h
  rw [readValue.eq_def]
  dsimp only
  rw [skipGaps_cons gap]
  split
  all_goals
    rename_i same
    first
    | rfl
    | cases same
      cases h

theorem readValue_bracket_zero : readValue 0 ('[' :: rest) = none := rfl

theorem readValue_brace_zero : readValue 0 ('\x7b' :: rest) = none := rfl

theorem readValue_no_items : readValue (level + 1) ('[' :: ']' :: rest) =
    some (.array [], rest) := rfl

theorem readValue_no_members : readValue (level + 1) ('\x7b' :: '\x7d' :: rest) =
    some (.object [], rest) := rfl

theorem readValue_items {c : Char} (h : Begins c) : readValue (level + 1) ('[' :: c :: rest) =
    (readItems (readValue level) (rest.length + 2) (c :: rest)).map
      fun (vs, rest) => (.array vs, rest) := by
  rw [readValue.eq_def]
  simp only [skipGaps_cons (rfl : isGap '[' = false), skipGaps_cons h.1]
  split
  · rename_i same
    cases same
    exact absurd rfl h.2.1
  · rfl

theorem readValue_members : readValue (level + 1) ('\x7b' :: '"' :: rest) =
    (readMembers (readValue level) (rest.length + 2) ('"' :: rest)).map
      fun (ms, rest) => (ofMembers ms, rest) := rfl

end Beginnings

theorem readValue_number {n : Int} (h : -Nat.pow 2 63 ≤ n ∧ n < Nat.pow 2 64) (level : Nat)
    {rest : List Char} (closed : Closed rest) :
    readValue level (renderInt n ++ rest) = some (.number (.whole n), rest) := by
  cases n with
  | ofNat n =>
    obtain ⟨c, cs, hd, digit⟩ := exists_digits n
    have fits : n < Nat.pow 2 64 := Int.ofNat_lt.mp h.2
    have read := readUnsigned_whole fits closed
    rw [hd, List.cons_append] at read
    rw [renderInt, hd, List.cons_append, readValue_digit _ _ digit, read]
    rfl
  | negSucc n =>
    have fits : n < Nat.pow 2 63 := by
      have := h.1
      rw [Int.negSucc_eq] at this
      omega
    rw [renderInt, List.cons_append, readValue_minus, readUnsigned_negative fits closed]
    rfl

theorem readValue_string (s : String) (level : Nat) (rest : List Char) :
    readValue level (quote s ++ rest) = some (.string s, rest) := by
  rw [quote, List.cons_append, List.append_assoc, readValue_quote, List.singleton_append,
    readChars_quoted, Option.map_some]
  dsimp only
  rw [String.ofList_toList]

/-! ### Items and members -/

/-- The value is read back, with this many levels to go, unless it is nested deeper. -/
def ReadBack (level : Nat) (v : Json) : Prop :=
  ∀ rest, Closed rest →
    readValue level (v.renderChars ++ rest) = if v.depth ≤ level then some (v, rest) else none

/-- Behind a value within the limit, the others are read if they are within it too. -/
theorem map_within {α β : Type} {n m level : Nat} (h : n ≤ level) (f : α → β) (a : α) :
    (if m ≤ level then some a else none).map f =
      if Nat.max n m ≤ level then some (f a) else none := by
  by_cases deeper : m ≤ level
  · rw [if_pos deeper, if_pos (Nat.max_le.mpr ⟨h, deeper⟩)]
    rfl
  · rw [if_neg deeper, if_neg fun both => deeper (Nat.max_le.mp both).2]
    rfl

section Lists

variable {level : Nat} (fuel : Nat) (rest : List Char)

theorem readItems_renderItems {items : List Json} (h : ∀ v ∈ items, ReadBack level v)
    (any : items ≠ []) (enough : items.length ≤ fuel) :
    readItems (readValue level) fuel (renderItems items ++ rest) =
      if depthItems items ≤ level then some (items, rest) else none := by
  induction items generalizing fuel with
  | nil => exact absurd rfl any
  | cons v items ih =>
    obtain ⟨fuel, rfl⟩ : ∃ n, fuel = n + 1 := ⟨fuel - 1, by simp at enough; omega⟩
    have first := h v (List.mem_cons_self ..)
    rw [readItems.eq_2, depthItems]
    cases items with
    | nil =>
      rw [renderItems, List.append_assoc, List.singleton_append,
        first _ (closed_cons rfl (by decide) _), depthItems, Nat.max_zero]
      by_cases deep : v.depth ≤ level
      · rw [if_pos deep, if_pos deep]
        rfl
      · rw [if_neg deep, if_neg deep]
    | cons w items =>
      have others := ih fuel (fun v hv => h v (List.mem_cons_of_mem _ hv)) (List.cons_ne_nil _ _)
        (Nat.le_of_succ_le_succ enough)
      rw [renderItems, List.append_assoc, List.cons_append,
        first _ (closed_cons rfl (by decide) _)]
      · by_cases deep : v.depth ≤ level
        · rw [if_pos deep]
          show (readItems (readValue level) fuel (renderItems (w :: items) ++ rest)).map _ = _
          rw [others]
          exact map_within deep ..
        · rw [if_neg deep, if_neg fun both => deep (Nat.max_le.mp both).1]
      · exact List.cons_ne_nil _ _

theorem readMember_quote (item : List Char → Option (Json × List Char)) (key : String) :
    readMember item (quote key ++ ':' :: rest) =
      (item rest).map fun (v, rest) => ((key, v), rest) := by
  have read := readChars_quoted key.toList (':' :: rest)
  rw [quote, List.cons_append, List.append_assoc, List.singleton_append]
  rw [readMember, skipGaps_cons (by decide)]
  split
  · rename_i same
    cases same
    rw [read]
    show (item rest).map (fun (v, rest) => ((String.ofList key.toList, v), rest)) = _
    rw [String.ofList_toList]
  · rename_i other
    exact absurd rfl (other _)

theorem readMembers_renderMembers {ms : List (String × Json)}
    (h : ∀ m ∈ ms, ReadBack level m.2) (any : ms ≠ []) (enough : ms.length ≤ fuel) :
    readMembers (readValue level) fuel (renderMembers ms ++ rest) =
      if depthMembers ms ≤ level then some (ms, rest) else none := by
  induction ms generalizing fuel with
  | nil => exact absurd rfl any
  | cons m ms ih =>
    obtain ⟨fuel, rfl⟩ : ∃ n, fuel = n + 1 := ⟨fuel - 1, by simp at enough; omega⟩
    obtain ⟨key, v⟩ := m
    have first : ReadBack level v := h _ (List.mem_cons_self ..)
    rw [readMembers.eq_2, depthMembers]
    cases ms with
    | nil =>
      rw [renderMembers, List.append_assoc, List.cons_append, List.append_assoc,
        List.singleton_append, readMember_quote, first _ (closed_cons rfl (by decide) _),
        depthMembers, Nat.max_zero]
      by_cases deep : v.depth ≤ level
      · rw [if_pos deep, if_pos deep]
        rfl
      · rw [if_neg deep, if_neg deep]
        rfl
    | cons n ms =>
      have others := ih fuel (fun m hm => h m (List.mem_cons_of_mem _ hm)) (List.cons_ne_nil _ _)
        (Nat.le_of_succ_le_succ enough)
      rw [renderMembers, List.append_assoc, List.cons_append, List.append_assoc,
        List.cons_append, readMember_quote, first _ (closed_cons rfl (by decide) _)]
      · by_cases deep : v.depth ≤ level
        · rw [if_pos deep]
          show (readMembers (readValue level) fuel (renderMembers (n :: ms) ++ rest)).map _ = _
          rw [others]
          exact map_within deep ..
        · rw [if_neg deep, if_neg fun both => deep (Nat.max_le.mp both).1]
          rfl
      · exact List.cons_ne_nil _ _

end Lists

theorem length_le_renderItems (items : List Json) : items.length ≤ (renderItems items).length := by
  induction items with
  | nil => exact Nat.zero_le _
  | cons v items ih =>
    cases items with
    | nil => simp [renderItems]
    | cons w items =>
      simp only [renderItems, List.length_append, List.length_cons] at ih ⊢
      omega

theorem length_le_renderMembers (ms : List (String × Json)) :
    ms.length ≤ (renderMembers ms).length := by
  induction ms with
  | nil => exact Nat.zero_le _
  | cons m ms ih =>
    obtain ⟨key, v⟩ := m
    cases ms with
    | nil => simp [renderMembers, quote]
    | cons n ms =>
      simp only [renderMembers, List.length_append, List.length_cons] at ih ⊢
      omega

theorem readBack_array {level : Nat} {items : List Json} (regular : RegularItems items)
    (h : ∀ v ∈ items, ReadBack level v) : ReadBack (level + 1) (.array items) := by
  intro rest _
  cases items with
  | nil => exact readValue_no_items level rest
  | cons v items =>
    obtain ⟨c, cs, hc, begins⟩ : ∃ c cs, renderItems (v :: items) = c :: cs ∧ Begins c := by
      obtain ⟨c, cs, hc, begins⟩ := renderChars_begins regular.1
      cases items with
      | nil => exact ⟨c, _, by rw [renderItems, hc, List.cons_append], begins⟩
      | cons w items =>
        exact ⟨c, _, by rw [renderItems, hc, List.cons_append]; exact List.cons_ne_nil _ _, begins⟩
    have length := length_le_renderItems (v :: items)
    rw [hc] at length
    rw [renderChars, List.cons_append, hc, List.cons_append, readValue_items level _ begins,
      ← List.cons_append, ← hc, readItems_renderItems _ _ h (List.cons_ne_nil _ _), depth]
    · simp only [Nat.add_le_add_iff_right]
      split <;> rfl
    · simp only [List.length_cons, List.length_append] at length ⊢
      omega

theorem exists_renderMembers (m : String × Json) (ms : List (String × Json)) :
    ∃ cs, renderMembers (m :: ms) = '"' :: cs := by
  cases ms <;> exact ⟨_, rfl⟩

/-- Members are read as the object that they make up, in whatever order they are written. -/
theorem readValue_renderMembers {level : Nat} {ms : List (String × Json)}
    (h : ∀ m ∈ ms, ReadBack level m.2) (rest : List Char) :
    readValue (level + 1) ('\x7b' :: (renderMembers ms ++ rest)) =
      if depthMembers ms ≤ level then some (ofMembers ms, rest) else none := by
  cases ms with
  | nil => exact readValue_no_members level rest
  | cons m ms =>
    obtain ⟨cs, hc⟩ := exists_renderMembers m ms
    have length := length_le_renderMembers (m :: ms)
    rw [hc] at length
    rw [hc, List.cons_append, readValue_members, ← List.cons_append, ← hc,
      readMembers_renderMembers _ _ h (List.cons_ne_nil _ _)]
    · split <;> rfl
    · simp only [List.length_cons, List.length_append] at length ⊢
      omega

theorem readBack_object {level : Nat} {ms : List (String × Json)} (sorted : Members.Sorted ms)
    (h : ∀ m ∈ ms, ReadBack level m.2) : ReadBack (level + 1) (.object ms) := by
  intro rest _
  rw [renderChars, List.cons_append, readValue_renderMembers h, ofMembers_sorted sorted, depth]
  simp only [Nat.add_le_add_iff_right]

theorem readBack_zero {v : Json} (h : v.depth ≠ 0) : ReadBack 0 v := by
  intro rest _
  cases v with
  | array items => exact readValue_bracket_zero _
  | object ms => exact readValue_brace_zero _
  | _ => exact absurd rfl h

mutual

/-- **A value is read back** from its compact form unless it is nested too deep. -/
theorem readBack : (v : Json) → v.Regular → ∀ level, ReadBack level v
  | .null, _, level => fun rest _ => by
    cases level <;> rfl
  | .bool true, _, level => fun rest _ => by
    cases level <;> rfl
  | .bool false, _, level => fun rest _ => by
    cases level <;> rfl
  | .number (.whole _), h, level => fun _ closed => readValue_number h level closed
  | .string s, _, level => fun rest _ => readValue_string s level rest
  | .array _, _, 0 => readBack_zero (Nat.succ_ne_zero _)
  | .array items, h, level + 1 => readBack_array h (readBackItems items h level)
  | .object _, _, 0 => readBack_zero (Nat.succ_ne_zero _)
  | .object ms, h, level + 1 => readBack_object h.1 (readBackMembers ms h.2 level)

theorem readBackItems : (items : List Json) → RegularItems items → ∀ level, ∀ v ∈ items,
    ReadBack level v
  | [], _, _ => List.forall_mem_nil _
  | v :: items, h, level =>
    List.forall_mem_cons.mpr ⟨readBack v h.1 level, readBackItems items h.2 level⟩

theorem readBackMembers : (ms : List (String × Json)) → RegularMembers ms → ∀ level,
    ∀ m ∈ ms, ReadBack level m.2
  | [], _, _ => List.forall_mem_nil _
  | (_, v) :: ms, h, level =>
    List.forall_mem_cons.mpr ⟨readBack v h.1 level, readBackMembers ms h.2 level⟩

end

end QueryGateway.Json
