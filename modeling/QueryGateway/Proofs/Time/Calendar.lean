import QueryGateway.Time.Instant

/-! The calendar: every day has a date, and the date gives the day's number back.

A day is placed in its era of 400 years, in a century, a group of four years and a year, and
in its year by the month, taken from March on. -/
namespace QueryGateway.Instant

/-- A day of an era of 400 years, as one of a year in a group of four years in a century. The
last year of a group has a leap day, unless it ends a century other than the last one. -/
structure Placed (day c q y x : Int) : Prop where
  sum : day = 36524 * c + 1461 * q + 365 * y + x
  century : 0 ≤ c ∧ c ≤ 3
  group : 0 ≤ q ∧ q ≤ 24
  year : 0 ≤ y ∧ y ≤ 3
  rest : 0 ≤ x ∧ x ≤ 365
  leap : x = 365 → y = 3 ∧ (q = 24 → c = 3)

theorem exists_placed {day : Int} (low : 0 ≤ day) (high : day < 146097) :
    ∃ c q y x, Placed day c q y x := by
  have hc : ∃ c r : Int, day = 36524 * c + r ∧ 0 ≤ c ∧ c ≤ 3 ∧ 0 ≤ r ∧ r ≤ 36524 ∧
      (r = 36524 → c = 3) := by
    by_cases last : day = 146096
    · exact ⟨3, 36524, by omega⟩
    · exact ⟨day / 36524, day % 36524, by omega⟩
  obtain ⟨c, r, rfl, hc⟩ := hc
  have hy : ∃ y x : Int, r % 1461 = 365 * y + x ∧ 0 ≤ y ∧ y ≤ 3 ∧ 0 ≤ x ∧ x ≤ 365 ∧
      (x = 365 → y = 3) := by
    by_cases last : r % 1461 = 1460
    · exact ⟨3, 365, by omega⟩
    · exact ⟨r % 1461 / 365, r % 1461 % 365, by omega⟩
  obtain ⟨y, x, hr, hy⟩ := hy
  exact ⟨c, r / 1461, y, x, by omega, by omega, by omega, by omega, by omega, by omega⟩

variable {day c q y x : Int}

/-- Groups of four years are counted by days, but for one day of some of them. -/
theorem Placed.group_days (h : Placed day c q y x) :
    ∃ b, day / 1460 = 25 * c + q + b ∧ b ≤ x ∧ x ≤ 364 + b := by
  obtain ⟨rfl, hc, hq, hy, hx, leap⟩ := h
  by_cases late : 1460 ≤ 24 * c + q + 365 * y + x
  · exact ⟨1, by omega, by omega, by omega⟩
  · exact ⟨0, by omega, by omega, by omega⟩

theorem Placed.century_days (h : Placed day c q y x) :
    day / 36524 - day / 146096 = c := by
  obtain ⟨rfl, hc, hq, hy, hx, leap⟩ := h
  by_cases last : c = 3 ∧ q = 24 ∧ y = 3 ∧ x = 365
  · obtain ⟨rfl, rfl, rfl, rfl⟩ := last
    decide
  · have early : (36524 * c + 1461 * q + 365 * y + x) / 146096 = 0 := by omega
    omega

theorem Placed.yearOfEra (h : Placed day c q y x) :
    (day - day / 1460 + day / 36524 - day / 146096) / 365 = 100 * c + 4 * q + y := by
  obtain ⟨b, groups, low, high⟩ := h.group_days
  have centuries := h.century_days
  have sum := h.sum
  omega

theorem Placed.startOfYear (h : Placed day c q y x) :
    365 * (100 * c + 4 * q + y) + (100 * c + 4 * q + y) / 4 - (100 * c + 4 * q + y) / 100 + x =
      day := by
  obtain ⟨rfl, hc, hq, hy, hx, leap⟩ := h
  omega

/-! ### Days of a year that begins in March -/

/-- The month of such a year that a day is in, March being the first. -/
def monthOfDay (x : Int) : Int := (5 * x + 2) / 153

/-- The days of such a year before a month. -/
def daysBefore (m : Int) : Int := (153 * m + 2) / 5

/-- The number of a month in the calendar. -/
def monthNumber (m : Int) : Int := if m < 10 then m + 3 else m - 9

/-- The day with a number in the year that begins in March of a year. -/
def dateFromMarch (year x : Int) : Date :=
  ⟨year + (if monthNumber (monthOfDay x) ≤ 2 then 1 else 0), (monthNumber (monthOfDay x)).toNat,
    (x - daysBefore (monthOfDay x) + 1).toNat⟩

/-- What there is of a date. -/
structure Date.Real (d : Date) : Prop where
  month : 1 ≤ d.month ∧ d.month ≤ 12
  day : 1 ≤ d.day ∧ d.day ≤ daysInMonth d.year d.month

theorem monthOfDay_range {x : Int} (low : 0 ≤ x) (high : x ≤ 365) :
    0 ≤ monthOfDay x ∧ monthOfDay x ≤ 11 := by
  unfold monthOfDay
  omega

theorem daysBefore_le (x : Int) : daysBefore (monthOfDay x) ≤ x := by
  unfold daysBefore monthOfDay
  omega

theorem lt_daysBefore_next (x : Int) : x < daysBefore (monthOfDay x + 1) := by
  unfold daysBefore monthOfDay
  omega

/-- The months from March to January are as long as the days before each of them say. -/
theorem daysInMonth_eq (year : Int) {m : Int} (low : 0 ≤ m) (high : m < 11) :
    (daysInMonth year (monthNumber m).toNat : Int) = daysBefore (m + 1) - daysBefore m := by
  have months : m = 0 ∨ m = 1 ∨ m = 2 ∨ m = 3 ∨ m = 4 ∨ m = 5 ∨ m = 6 ∨ m = 7 ∨ m = 8 ∨ m = 9 ∨
      m = 10 := by
    omega
  rcases months with rfl | rfl | rfl | rfl | rfl | rfl | rfl | rfl | rfl | rfl | rfl <;> rfl

theorem real_dateFromMarch {year x : Int} (low : 0 ≤ x) (high : x ≤ 365)
    (leap : x = 365 → isLeapYear (year + 1) = true) : (dateFromMarch year x).Real := by
  obtain ⟨first, last⟩ := monthOfDay_range low high
  have before := daysBefore_le x
  have behind := lt_daysBefore_next x
  refine ⟨?_, ?_⟩
  · show 1 ≤ (monthNumber (monthOfDay x)).toNat ∧ (monthNumber (monthOfDay x)).toNat ≤ 12
    unfold monthNumber
    split <;> omega
  · by_cases february : monthOfDay x = 11
    · have length : x ≤ 336 + daysInMonth (year + 1) 2 := by
        show x ≤ 336 + ((if isLeapYear (year + 1) then 29 else 28 : Nat) : Int)
        cases common : isLeapYear (year + 1) with
        | true => exact high
        | false =>
          have other : x ≠ 365 := fun h => by simp [leap h] at common
          show x ≤ 364
          omega
      have start : daysBefore 11 = 337 := rfl
      rw [february, start] at before
      rw [dateFromMarch, february, start]
      show 1 ≤ (x - 337 + 1).toNat ∧ (x - 337 + 1).toNat ≤ daysInMonth (year + 1) 2
      omega
    · have length := daysInMonth_eq (dateFromMarch year x).year first (by omega)
      show 1 ≤ (x - daysBefore (monthOfDay x) + 1).toNat ∧
        (x - daysBefore (monthOfDay x) + 1).toNat ≤
          daysInMonth (dateFromMarch year x).year (monthNumber (monthOfDay x)).toNat
      omega

/-- The number of the day: those of the whole years before it, and its place in its year. -/
theorem dayNumber_dateFromMarch {yearOfEra era x : Int} (century : 0 ≤ yearOfEra)
    (late : yearOfEra < 400) (low : 0 ≤ x) (high : x ≤ 365) :
    dayNumber (dateFromMarch (yearOfEra + era * 400) x) =
      era * 146097 + (365 * yearOfEra + yearOfEra / 4 - yearOfEra / 100 + x) - 719468 := by
  obtain ⟨first, last⟩ := monthOfDay_range low high
  have before := daysBefore_le x
  have day : (((x - daysBefore (monthOfDay x) + 1).toNat : Nat) : Int) =
      x - daysBefore (monthOfDay x) + 1 := by
    omega
  have month : ((((monthNumber (monthOfDay x)).toNat : Nat) : Int) + 9) % 12 = monthOfDay x := by
    unfold monthNumber
    split <;> omega
  have early : (monthNumber (monthOfDay x)).toNat ≤ 2 ↔ monthNumber (monthOfDay x) ≤ 2 := by
    omega
  have year : (if (monthNumber (monthOfDay x)).toNat ≤ 2 then
      yearOfEra + era * 400 + (if monthNumber (monthOfDay x) ≤ 2 then 1 else 0) - 1
      else yearOfEra + era * 400 + (if monthNumber (monthOfDay x) ≤ 2 then 1 else 0)) =
        yearOfEra + era * 400 := by
    simp only [early]
    split <;> omega
  have era : (yearOfEra + era * 400).fdiv 400 = era := by
    rw [Int.fdiv_eq_ediv_of_nonneg _ (by decide)]
    omega
  unfold dayNumber dateFromMarch
  simp only [day, month, year, era]
  unfold daysBefore
  omega

/-- Every day has a date, and the date gives its number. -/
theorem ofDayNumber_real (n : Int) : (ofDayNumber n).Real ∧ dayNumber (ofDayNumber n) = n := by
  have era : (n + 719468).fdiv 146097 = (n + 719468) / 146097 :=
    Int.fdiv_eq_ediv_of_nonneg _ (by decide)
  obtain ⟨c, q, y, x, h⟩ :
      ∃ c q y x, Placed (n + 719468 - (n + 719468) / 146097 * 146097) c q y x :=
    exists_placed (by omega) (by omega)
  have start := h.startOfYear
  have date : ofDayNumber n =
      dateFromMarch (100 * c + 4 * q + y + (n + 719468) / 146097 * 400) x := by
    have rest : (n + 719468 - (n + 719468) / 146097 * 146097) -
        (365 * (100 * c + 4 * q + y) + (100 * c + 4 * q + y) / 4 - (100 * c + 4 * q + y) / 100) =
          x := by
      omega
    unfold ofDayNumber
    simp only [era, h.yearOfEra, rest]
    rfl
  obtain ⟨low, high⟩ := h.rest
  obtain ⟨hc, hq, hy⟩ := And.intro h.century (And.intro h.group h.year)
  rw [date]
  refine ⟨real_dateFromMarch low high fun last => ?_, ?_⟩
  · obtain ⟨rfl, fourth⟩ := h.leap last
    have four : (100 * c + 4 * q + 3 + (n + 719468) / 146097 * 400 + 1) % 4 = 0 := by omega
    have hundred : (100 * c + 4 * q + 3 + (n + 719468) / 146097 * 400 + 1) % 100 ≠ 0 ∨
        (100 * c + 4 * q + 3 + (n + 719468) / 146097 * 400 + 1) % 400 = 0 := by
      by_cases late : q = 24
      · have := fourth late
        omega
      · omega
    rw [isLeapYear, four]
    simpa using hundred
  · rw [dayNumber_dateFromMarch (by omega) (by omega) low high]
    omega

end QueryGateway.Instant
