import QueryGateway.Proofs.Time.Calendar
import QueryGateway.Time.Timestamp

/-! An instant is read back from its text.

Each reader takes off the front of the text what the printer put there, whatever follows. What
the text of a leap second can say is that it is the sixty-first of its minute; one anywhere else
in a minute has the text of the second behind it (`legible`). -/
namespace QueryGateway.Instant

/-! ### Numbers in digits -/

theorem numberOf_eq (ds : List Char) : numberOf ds = Nat.ofDigitChars 10 ds 0 := by
  have step : (fun n (c : Char) => n * 10 + (c.toNat - '0'.toNat)) =
      fun n c => 10 * n + (c.toNat - '0'.toNat) := by
    funext n c
    rw [Nat.mul_comm]
  rw [numberOf, step]
  rfl

theorem isDigit_of_mem_padded {width n : Nat} {c : Char} (h : c ∈ padded width n) :
    c.isDigit = true := by
  rcases List.mem_append.mp h with h | h
  · rw [List.eq_of_mem_replicate h]
    rfl
  · exact Nat.isDigit_of_mem_toDigits (by decide) (by decide) h

theorem numberOf_padded (width n : Nat) : numberOf (padded width n) = n := by
  have zeros : ∀ k, Nat.ofDigitChars 10 (List.replicate k '0') 0 = 0 := by
    intro k
    induction k with
    | zero => rfl
    | succ k ih => rwa [List.replicate_succ, Nat.ofDigitChars_cons]
  rw [numberOf_eq, padded, Nat.ofDigitChars_append, zeros, Nat.ofDigitChars_toDigits (by decide)
    (by decide)]

theorem padded_ne_nil (width n : Nat) : padded width n ≠ [] :=
  List.append_ne_nil_of_right_ne_nil _ Nat.toDigits_ne_nil

theorem length_padded {width n : Nat} (some : 0 < width) (h : n < Nat.pow 10 width) :
    (padded width n).length = width := by
  have digits := (Nat.length_toDigits_le_iff (by decide) some).mpr h
  rw [padded, List.length_append, List.length_replicate]
  omega

theorem isBlank_of_isDigit {c : Char} (h : c.isDigit = true) : Text.isBlank c = false := by
  simp only [Char.isDigit, Bool.and_eq_true, decide_eq_true_eq, UInt32.le_iff_toNat_le] at h
  have low : 48 ≤ c.toNat := h.1
  have high : c.toNat ≤ 57 := h.2
  simp [Text.isBlank, Text.blankRanges]
  omega

theorem skipBlanks_cons {c : Char} (h : Text.isBlank c = false) (cs : List Char) :
    skipBlanks (c :: cs) = c :: cs :=
  List.dropWhile_cons_of_neg (by rw [h]; decide)

section Digits

variable {ds rest : List Char}

theorem takeWhile_isDigit (all : ∀ c ∈ ds, c.isDigit = true)
    (stop : ∀ c, rest.head? = some c → c.isDigit = false) :
    (ds ++ rest).takeWhile Char.isDigit = ds := by
  rw [List.takeWhile_append_of_pos all]
  cases rest with
  | nil => exact List.append_nil _
  | cons c rest =>
    rw [List.takeWhile_cons_of_neg (by rw [stop c rfl]; decide), List.append_nil]

/-- Digits are read up to the greatest number of them, or to what is no digit. -/
theorem readDigits_append {width : Nat} (all : ∀ c ∈ ds, c.isDigit = true) (any : ds ≠ [])
    (fits : ds.length ≤ width)
    (stop : ds.length = width ∨ ∀ c, rest.head? = some c → c.isDigit = false) :
    readDigits width (ds ++ rest) = some (numberOf ds, rest) := by
  have taken : ((ds ++ rest).take width).takeWhile Char.isDigit = ds := by
    rw [List.take_append, List.take_of_length_le fits]
    refine takeWhile_isDigit all fun c hc => ?_
    rcases stop with full | stop
    · rw [full, Nat.sub_self] at hc
      cases hc
    · refine stop c ?_
      rw [List.head?_take] at hc
      split at hc
      · cases hc
      · exact hc
  unfold readDigits
  simp only [taken, any, if_false, List.drop_left]

theorem skipBlanks_digits (all : ∀ c ∈ ds, c.isDigit = true) (any : ds ≠ []) :
    skipBlanks (ds ++ rest) = ds ++ rest := by
  obtain ⟨c, cs, rfl⟩ := List.exists_cons_of_ne_nil any
  exact skipBlanks_cons (isBlank_of_isDigit (all c List.mem_cons_self)) _

end Digits

theorem readField_padded {n : Nat} (h : n < 100) (rest : List Char) :
    readField (padded 2 n ++ rest) = some (n, rest) := by
  have length : (padded 2 n).length = 2 := length_padded (by decide) h
  rw [readField, skipBlanks_digits (fun _ => isDigit_of_mem_padded) (padded_ne_nil 2 n),
    readDigits_append (fun _ => isDigit_of_mem_padded) (padded_ne_nil 2 n) (Nat.le_of_eq length)
      (.inl length), numberOf_padded]

/-! ### Dates -/

theorem readYear_minus (cs : List Char) :
    readYear ('-' :: cs) = (readDigits cs.length cs).map fun (n, rest) => (-(n : Int), rest) := rfl

theorem readYear_plus (cs : List Char) :
    readYear ('+' :: cs) = (readDigits cs.length cs).map fun (n, rest) => ((n : Int), rest) := rfl

theorem readYear_digit {c : Char} (h : c.isDigit = true) (cs : List Char) :
    readYear (c :: cs) = (readDigits 4 (c :: cs)).map fun (n, rest) => ((n : Int), rest) := by
  rw [readYear, skipBlanks_cons (isBlank_of_isDigit h)]
  split
  · rename_i eq
    obtain ⟨rfl, -⟩ := List.cons.inj eq
    cases h
  · rename_i eq
    obtain ⟨rfl, -⟩ := List.cons.inj eq
    cases h
  · rfl

theorem readYear_renderYear (y : Int) (rest : List Char) :
    readYear (renderYear y ++ '-' :: rest) = some (y, '-' :: rest) := by
  have signed : ∀ n : Nat, readDigits (padded 4 n ++ '-' :: rest).length
      (padded 4 n ++ '-' :: rest) = some (n, '-' :: rest) := by
    intro n
    rw [readDigits_append (fun _ => isDigit_of_mem_padded) (padded_ne_nil 4 n)
      (by rw [List.length_append]; omega) (.inr fun c hc => by cases hc; rfl), numberOf_padded]
  rw [renderYear]
  by_cases short : (0 ≤ y && y ≤ 9999) = true
  · rw [if_pos short]
    simp only [Bool.and_eq_true, decide_eq_true_eq] at short
    have small : y.toNat < 10000 := by omega
    have length : (padded 4 y.toNat).length = 4 := length_padded (by decide) small
    have read : readDigits 4 (padded 4 y.toNat ++ '-' :: rest) =
        some (numberOf (padded 4 y.toNat), '-' :: rest) :=
      readDigits_append (fun _ => isDigit_of_mem_padded) (padded_ne_nil 4 y.toNat)
        (Nat.le_of_eq length) (.inl length)
    obtain ⟨c, cs, first⟩ := List.exists_cons_of_ne_nil (padded_ne_nil 4 y.toNat)
    have digit : c.isDigit = true := isDigit_of_mem_padded (first ▸ List.mem_cons_self)
    have value : ((y.toNat : Nat) : Int) = y := Int.toNat_of_nonneg short.1
    rw [numberOf_padded, first, List.cons_append] at read
    rw [first, List.cons_append, readYear_digit digit, read, Option.map_some]
    exact congrArg (fun n => some (n, '-' :: rest)) value
  · rw [if_neg short]
    simp only [Bool.and_eq_true, decide_eq_true_eq] at short
    split
    · have value : -((y.natAbs : Nat) : Int) = y := by omega
      rw [List.cons_append, readYear_minus, signed, Option.map_some]
      exact congrArg (fun n => some (n, '-' :: rest)) value
    · have value : ((y.natAbs : Nat) : Int) = y := by omega
      rw [List.cons_append, readYear_plus, signed, Option.map_some]
      exact congrArg (fun n => some (n, '-' :: rest)) value

theorem readDate_render {d : Date} (real : d.Real) (h : inCalendar (startOfDay d) = true)
    (rest : List Char) :
    readDate (renderYear d.year ++ '-' :: padded 2 d.month ++ '-' :: padded 2 d.day ++ rest) =
      some (d, rest) := by
  obtain ⟨⟨firstMonth, lastMonth⟩, firstDay, lastDay⟩ := real
  have length : daysInMonth d.year d.month ≤ 31 := by
    unfold daysInMonth
    split
    · split <;> decide
    all_goals decide
  have mark : ∀ cs, readMark '-' ('-' :: cs) = some cs := fun _ => rfl
  simp only [List.append_assoc, List.cons_append]
  rw [readDate, readYear_renderYear]
  simp only [Option.bind_eq_bind, Option.bind_some, mark, readField_padded (n := d.month) (by omega),
    readField_padded (n := d.day) (by omega)]
  rw [if_pos (by simp [*])]

/-! ### Times of day -/

theorem readFraction_renderFraction {nanos : Nat} (h : nanos < Span.perSecond) (rest : List Char) :
    readFraction (renderFraction nanos ++ 'Z' :: rest) = some (nanos, 'Z' :: rest) := by
  -- as many digits as the width says, and zeros for the rest of the nine
  have digits : ∀ {width n scale : Nat}, 0 < width → width ≤ 9 → n < 10 ^ width →
      Nat.pow 10 (9 - width) = scale → n * scale = nanos →
      readFraction ('.' :: padded width n ++ 'Z' :: rest) = some (nanos, 'Z' :: rest) := by
    intro width n scale any few fits places whole
    have length := length_padded any fits
    have taken : (padded width n ++ 'Z' :: rest).takeWhile Char.isDigit = padded width n :=
      takeWhile_isDigit (fun _ => isDigit_of_mem_padded) fun c hc => by cases hc; rfl
    have kept : (padded width n).take 9 = padded width n := List.take_of_length_le (by omega)
    rw [List.cons_append, readFraction]
    simp only [taken, kept, padded_ne_nil, if_false, numberOf_padded, length,
      List.drop_left' length, places, whole]
  have bound : nanos < 1000000000 := h
  have million : Nat.pow 10 6 = 1000000 := rfl
  have thousand : Nat.pow 10 3 = 1000 := rfl
  rw [renderFraction, million, thousand]
  split
  · rename_i none
    rw [none]
    rfl
  · split
    · exact digits (by decide) (by decide) (by omega) million (by omega)
    · split
      · exact digits (by decide) (by decide) (by omega) thousand (by omega)
      · exact digits (by decide) (by decide) bound rfl (Nat.mul_one _)

/-- A time of day as it is written: the sixty-first second is one behind the last. -/
theorem readTime_render {hour minute second nanos : Nat} (hh : hour < 24) (hm : minute < 60)
    (hs : second ≤ 60) (hn : nanos < Span.perSecond) (rest : List Char) :
    readTime (padded 2 hour ++ ':' :: padded 2 minute ++ ':' :: padded 2 second ++
        renderFraction nanos ++ 'Z' :: rest) =
      some (if second = 60 then ((hour * 60 + minute) * 60 + 59, Span.perSecond + nanos)
        else ((hour * 60 + minute) * 60 + second, nanos), 'Z' :: rest) := by
  have mark : ∀ cs, readMark ':' (':' :: cs) = some cs := fun _ => rfl
  simp only [List.append_assoc, List.cons_append]
  rw [readTime, readField_padded (by omega)]
  simp only [Option.bind_eq_bind, Option.bind_some, mark, readField_padded (n := minute) (by omega),
    readField_padded (n := second) (by omega), readFraction_renderFraction hn]
  rw [if_pos (by simp [*])]
  split <;> rfl

/-! ### Instants -/

/-- What the text of an instant says: one in a leap second that does not end a minute has the
text of the second behind it. -/
def legible (t : Instant) : Instant :=
  if t.isLeap && t.second % 60 ≠ 59 then ⟨t.second + 1, t.fraction - Span.perSecond⟩ else t

theorem legible_eq_self_iff {t : Instant} :
    t.legible = t ↔ (t.isLeap = true → t.second % 60 = 59) := by
  rw [legible]
  by_cases strange : (t.isLeap && t.second % 60 ≠ 59) = true
  · rw [if_pos strange]
    simp only [Bool.and_eq_true, decide_eq_true_eq] at strange
    refine ⟨fun h => ?_, fun h => absurd (h strange.1) strange.2⟩
    have next : t.second + 1 = t.second := congrArg Instant.second h
    omega
  · rw [if_neg strange]
    simp only [Bool.and_eq_true, decide_eq_true_eq, not_and, ne_eq, Decidable.not_not] at strange
    exact iff_of_true rfl strange

/-- The calendar begins and ends with a day. -/
theorem inCalendar_startOfDay {s : Int} (h : inCalendar s = true) :
    inCalendar (s / perDay * perDay) = true := by
  have first : firstSecond = -96465292 * perDay := by decide
  simp only [inCalendar, Bool.and_eq_true, decide_eq_true_eq] at h ⊢
  rw [first, perDay] at h ⊢
  omega

/-- A second behind one that does not end a minute lies in the calendar with it. -/
theorem inCalendar_next {s : Int} (h : inCalendar s = true) (other : s % 60 ≠ 59) :
    inCalendar (s + 1) = true := by
  have last : lastSecond = 95026237 * perDay - 1 := by decide
  simp only [inCalendar, Bool.and_eq_true, decide_eq_true_eq] at h ⊢
  rw [last, perDay] at h ⊢
  omega

theorem inCalendar_legible {t : Instant} (h : inCalendar t.second = true) :
    inCalendar t.legible.second = true := by
  rw [legible]
  split
  · rename_i strange
    simp only [Bool.and_eq_true, decide_eq_true_eq] at strange
    exact inCalendar_next h strange.2
  · exact h

theorem readChars_render {d : Date} {hour minute second nanos : Nat} (real : d.Real)
    (h : inCalendar (startOfDay d) = true) (hh : hour < 24) (hm : minute < 60) (hs : second ≤ 60)
    (hn : nanos < Span.perSecond) {t : Instant}
    (within : t.second = startOfDay d + ((hour * 60 + minute) * 60 + min second 59 : Nat))
    (fraction : t.fraction = if second = 60 then Span.perSecond + nanos else nanos)
    (calendar : inCalendar t.second = true) :
    readChars (renderYear d.year ++ '-' :: padded 2 d.month ++ '-' :: padded 2 d.day
      ++ 'T' :: padded 2 hour ++ ':' :: padded 2 minute ++ ':' :: padded 2 second
      ++ renderFraction nanos ++ ['Z']) = some t := by
  have date := readDate_render real h ('T' :: (padded 2 hour ++ ':' :: padded 2 minute ++
    ':' :: padded 2 second ++ renderFraction nanos ++ ['Z']))
  have time := readTime_render hh hm hs hn []
  have offset : readOffset ['Z'] = some (0, []) := rfl
  have blank : skipBlanks [] = [] := rfl
  simp only [List.append_assoc, List.cons_append] at date time ⊢
  rw [readChars, date]
  simp only [Option.bind_eq_bind, Option.bind_some, decide_true, Bool.or_true, Bool.true_or, if_true,
    time]
  obtain ⟨s, f⟩ := t
  dsimp only at within fraction calendar
  by_cases leap : second = 60
  · subst leap
    have late : (startOfDay d + (((hour * 60 + minute) * 60 + 59 : Nat) : Int) - 0) = s := by
      omega
    rw [if_pos rfl] at fraction
    simp only [if_true, offset, Option.bind_some, blank, late, calendar, decide_true, Bool.and_self,
      fraction]
  · have plain : (startOfDay d + (((hour * 60 + minute) * 60 + second : Nat) : Int) - 0) = s := by
      omega
    rw [if_neg leap] at fraction
    simp only [leap, if_false, offset, Option.bind_some, blank, plain, calendar, decide_true,
      Bool.and_self, if_true, fraction]

/-- **An instant of the calendar is read back** as what its text says. -/
theorem read_render {t : Instant} (h : inCalendar t.second = true)
    (hf : t.fraction < 2 * Span.perSecond) : read t.render = some t.legible := by
  have date : t.second.fdiv perDay = t.second / perDay :=
    Int.fdiv_eq_ediv_of_nonneg _ (by decide)
  have time : t.second.fmod perDay = t.second % perDay :=
    Int.fmod_eq_emod_of_nonneg _ (by decide)
  obtain ⟨real, number⟩ := ofDayNumber_real (t.second / perDay)
  have start : startOfDay (ofDayNumber (t.second / perDay)) = t.second / perDay * perDay := by
    rw [startOfDay, number]
  have second : Span.perSecond = 1000000000 := rfl
  rw [read, render, String.toList_ofList, renderChars, date, time]
  refine readChars_render real (start ▸ inCalendar_startOfDay h) ?_ ?_ ?_ ?_ ?_ ?_
    (inCalendar_legible h)
  all_goals
    rw [perDay] at start
    simp only [start, legible, isLeap, perDay, second] at hf ⊢
  · omega
  · omega
  · omega
  · omega
  · split
    · rename_i strange
      simp only [Bool.and_eq_true, decide_eq_true_eq] at strange
      dsimp only
      omega
    · rename_i plain
      simp only [Bool.and_eq_true, decide_eq_true_eq] at plain
      omega
  · split
    · rename_i strange
      simp only [Bool.and_eq_true, decide_eq_true_eq] at strange
      rw [if_neg (by omega)]
      dsimp only
      omega
    · rename_i plain
      simp only [Bool.and_eq_true, decide_eq_true_eq] at plain
      split <;> omega

end QueryGateway.Instant
