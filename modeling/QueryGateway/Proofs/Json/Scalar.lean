import QueryGateway.Json.Printer
import QueryGateway.Json.Reader

/-! Strings and whole numbers are read back as they were written. -/
namespace QueryGateway.Json

/-! ### Strings -/

/-- A character and the ones read behind it. -/
def withChar (c : Char) (read : Option (List Char × List Char)) :
    Option (List Char × List Char) :=
  read.map fun (cs, rest) => (c :: cs, rest)

theorem readChars_plain {c : Char} (h : 32 ≤ c.toNat) (quote : c ≠ '"') (backslash : c ≠ '\\')
    (rest : List Char) : readChars (c :: rest) = withChar c (readChars rest) := by
  rw [readChars, if_neg]
  · rfl
  · simp [backslash, h]
  all_goals intros; contradiction

theorem readChars_letter {letter c : Char} (h : escaped? letter = some c) (unicode : letter ≠ 'u')
    (rest : List Char) : readChars ('\\' :: letter :: rest) = withChar c (readChars rest) := by
  rw [readChars, h]
  · rfl
  all_goals intros; contradiction

theorem readChars_unicode {a b c d : Char} {n : Nat} (h : hexFour? a b c d = some n)
    (high : isHighSurrogate n = false) (low : isLowSurrogate n = false) (rest : List Char) :
    readChars ('\\' :: 'u' :: a :: b :: c :: d :: rest) =
      withChar (Char.ofNat n) (readChars rest) := by
  by_cases again : ∃ e f g h rest', rest = '\\' :: 'u' :: e :: f :: g :: h :: rest'
  · obtain ⟨e, f, g, i, rest', rfl⟩ := again
    rw [readChars.eq_2, h]
    dsimp only
    rw [high, low]
    rfl
  · rw [readChars, h]
    · dsimp only
      rw [high, low]
      rfl
    · intro e f g i rest' same
      exact again ⟨e, f, g, i, rest', same⟩

/-- The four digits of a control character. -/
theorem hexFour?_control {n : Nat} (h : n < 32) :
    hexFour? '0' '0' (hexDigit (n / 16)) (hexDigit (n % 16)) = some n := by
  revert n
  decide

theorem readChars_escapeChar (c : Char) (rest : List Char) :
    readChars (escapeChar c ++ rest) = withChar c (readChars rest) := by
  unfold escapeChar
  split
  · exact readChars_letter (c := '"') rfl (by decide) rest
  · exact readChars_letter (c := '\\') rfl (by decide) rest
  · exact readChars_letter (c := '\n') rfl (by decide) rest
  · exact readChars_letter (c := '\r') rfl (by decide) rest
  · exact readChars_letter (c := '\t') rfl (by decide) rest
  · rename_i quote backslash _ _ _
    have known {n : Nat} (h : c.toNat = n) : Char.ofNat n = c := by rw [← h, Char.ofNat_toNat]
    split
    · rename_i h
      rw [← known h]
      exact readChars_letter rfl (by decide) rest
    · split
      · rename_i h
        rw [← known h]
        exact readChars_letter rfl (by decide) rest
      · split
        · rename_i h
          have small : c.toNat < 32 := h
          have high : isHighSurrogate c.toNat = false := by
            simp [isHighSurrogate]; omega
          have low : isLowSurrogate c.toNat = false := by
            simp [isLowSurrogate]; omega
          have read := readChars_unicode (hexFour?_control small) high low rest
          rwa [Char.ofNat_toNat] at read
        · exact readChars_plain (by omega) quote backslash rest

/-- A string is read back up to its closing quote. -/
theorem readChars_quoted (cs rest : List Char) :
    readChars (cs.flatMap escapeChar ++ '"' :: rest) = some (cs, rest) := by
  induction cs with
  | nil => rw [List.flatMap_nil, List.nil_append, readChars]
  | cons c cs ih =>
    rw [List.flatMap_cons, List.append_assoc, readChars_escapeChar, ih]
    rfl

/-! ### Whole numbers -/

/-- The text does not go on with a number. -/
def Closed (rest : List Char) : Prop :=
  ∀ c, rest.head? = some c → c.isDigit = false ∧ c ≠ '.' ∧ c ≠ 'e' ∧ c ≠ 'E'

theorem digits_head {n : Nat} (h : 0 < n) : (digits n).head? ≠ some '0' := by
  induction n using Nat.strongRecOn with
  | ind n ih =>
    by_cases small : n < 10
    · rw [digits, Nat.toDigits_of_lt_base small, List.head?_cons, ne_eq, Option.some.injEq,
        Nat.digitChar_eq_zero]
      omega
    · obtain ⟨d, ds, first⟩ := List.exists_cons_of_ne_nil (Nat.toDigits_ne_nil (n := n / 10) (b := 10))
      have earlier := ih (n / 10) (by omega) (by omega)
      rw [digits, first] at earlier
      rw [digits, Nat.toDigits_of_base_le (by decide) (by omega), first]
      exact earlier

/-- Digits that make a number of 64 bits are all gathered. -/
theorem gather_digits (cs : List Char) (n : Nat) (h : Nat.ofDigitChars 10 cs n < Nat.pow 2 64) :
    cs.foldl Gathered.whole ⟨n, 0, false⟩ = ⟨Nat.ofDigitChars 10 cs n, 0, false⟩ := by
  induction cs generalizing n with
  | nil => rfl
  | cons c cs ih =>
    have next : n * 10 + digitValue c = 10 * n + (c.toNat - '0'.toNat) := by
      rw [digitValue, Nat.mul_comm]
    rw [Nat.ofDigitChars_cons] at h ⊢
    have fits : 10 * n + (c.toNat - '0'.toNat) < Nat.pow 2 64 := by
      rw [Nat.ofDigitChars_eq_ofDigitChars_zero] at h
      have : 1 ≤ 10 ^ cs.length := Nat.one_le_pow _ _ (by decide)
      have := Nat.le_mul_of_pos_left (10 * n + (c.toNat - '0'.toNat)) this
      omega
    rw [List.foldl_cons, ← ih _ h]
    congr 1
    rw [Gathered.whole, next]
    simp only [Bool.false_or, decide_eq_true_eq]
    rw [if_neg (by omega)]

/-- A number is written without a zero in front. -/
theorem digits_leading (n : Nat) :
    (digits n = [] || ((digits n).head? = some '0' && 1 < (digits n).length)) = false := by
  have some? : digits n ≠ [] := Nat.toDigits_ne_nil
  rcases Nat.eq_zero_or_pos n with rfl | positive
  · rfl
  · simp [some?, digits_head positive]

theorem readUnsigned_digits {n : Nat} (h : n < Nat.pow 2 64) (negative : Bool)
    {rest : List Char} (closed : Closed rest) :
    readUnsigned negative (digits n ++ rest) =
      some (readUnsigned.plain negative n, rest) := by
  have all : ∀ c ∈ digits n, Char.isDigit c = true := fun c =>
    Nat.isDigit_of_mem_toDigits (by decide) (by decide)
  have behind : rest.takeWhile Char.isDigit = [] ∧ rest.dropWhile Char.isDigit = rest := by
    cases rest with
    | nil => exact ⟨rfl, rfl⟩
    | cons c rest =>
      obtain ⟨digit, _⟩ := closed c rfl
      exact ⟨List.takeWhile_cons_of_neg (by rw [digit]; decide),
        List.dropWhile_cons_of_neg (by rw [digit]; decide)⟩
  have whole : (digits n ++ rest).takeWhile Char.isDigit = digits n := by
    rw [List.takeWhile_append_of_pos all, behind.1, List.append_nil]
  have left : (digits n ++ rest).dropWhile Char.isDigit = rest := by
    rw [List.dropWhile_append_of_pos all, behind.2]
  have gathered : (digits n).foldl Gathered.whole ⟨0, 0, false⟩ = ⟨n, 0, false⟩ := by
    have value : Nat.ofDigitChars 10 (digits n) 0 = n := Nat.ofDigitChars_ten_toDigits
    rw [gather_digits _ _ (by rw [value]; exact h), value]
  unfold readUnsigned
  dsimp only
  rw [whole, left, gathered, digits_leading, if_neg Bool.false_ne_true]
  cases rest with
  | nil => rfl
  | cons c rest =>
    obtain ⟨_, point, lower, upper⟩ := closed c rfl
    have plain : (decide (c = 'e') || decide (c = 'E') || false) = false := by
      simp [lower, upper]
    split
    · rename_i same
      cases same
      exact absurd rfl point
    · rename_i same
      cases same
      rw [plain]
      rfl
    · rename_i same
      cases same

/-- A whole number is read back if it fits 64 bits, signed or not. -/
theorem readUnsigned_whole {n : Nat} (h : n < Nat.pow 2 64) {rest : List Char}
    (closed : Closed rest) :
    readUnsigned false (digits n ++ rest) = some (.whole n, rest) :=
  readUnsigned_digits h false closed

theorem readUnsigned_negative {n : Nat} (h : n < Nat.pow 2 63) {rest : List Char}
    (closed : Closed rest) :
    readUnsigned true (digits (n + 1) ++ rest) = some (.whole (Int.negSucc n), rest) := by
  have fits : n + 1 < Nat.pow 2 64 := Nat.lt_of_le_of_lt h (by decide)
  rw [readUnsigned_digits fits true closed, readUnsigned.plain, if_neg (by decide)]
  rw [if_neg]
  · rfl
  · have : Nat.pow 2 63 = 9223372036854775808 := by decide
    simp
    omega

end QueryGateway.Json
