import QueryGateway.Text.Base64
import QueryGateway.Text.Blank

/-! Bytes in base 64 are read back.

Three bytes are four digits, which are read by themselves (`decode?_full`); what is left at the end
is padded. Nothing of it is blank. -/
namespace QueryGateway.Text.Base64

/-! ### Digits -/

/-- The digit with a value. -/
def digit (n : Nat) : Char :=
  if n < 26 then Char.ofNat ('A'.toNat + n)
  else if n < 52 then Char.ofNat ('a'.toNat + (n - 26))
  else if n < 62 then Char.ofNat ('0'.toNat + (n - 52))
  else if n = 62 then '+'
  else '/'

theorem digit?_digit {n : Nat} (h : n < 64) : digit? (digit n) = some n := by
  revert n
  decide

theorem digit_ne_padding {n : Nat} (h : n < 64) : digit n ≠ '=' := by
  revert n
  decide

theorem isBlank_digit {n : Nat} (h : n < 64) : isBlank (digit n) = false := by
  revert n
  decide

/-! ### Bytes -/

/-- Bytes in base 64, padded. -/
def encode : List UInt8 → List Char
  | [] => []
  | [a] => [digit (a.toNat / 4), digit (a.toNat % 4 * 16), '=', '=']
  | [a, b] =>
    [digit (a.toNat / 4), digit (a.toNat % 4 * 16 + b.toNat / 16), digit (b.toNat % 16 * 4), '=']
  | a :: b :: c :: rest =>
    digit (a.toNat / 4) :: digit (a.toNat % 4 * 16 + b.toNat / 16) ::
      digit (b.toNat % 16 * 4 + c.toNat / 64) :: digit (c.toNat % 64) :: encode rest

theorem byte_eq {n : Nat} {b : UInt8} (h : n = b.toNat) : n.toUInt8 = b := by
  rw [h]
  exact UInt8.ofNat_toNat

theorem group_digits (a b c : UInt8) :
    group (digit (a.toNat / 4)) (digit (a.toNat % 4 * 16 + b.toNat / 16))
      (digit (b.toNat % 16 * 4 + c.toNat / 64)) (digit (c.toNat % 64)) = some [a, b, c] := by
  have ha := a.toNat_lt
  have hb := b.toNat_lt
  have hc := c.toNat_lt
  have first : (a.toNat / 4 * 4 + (a.toNat % 4 * 16 + b.toNat / 16) / 16).toUInt8 = a :=
    byte_eq (by omega)
  have second : ((a.toNat % 4 * 16 + b.toNat / 16) % 16 * 16 +
      (b.toNat % 16 * 4 + c.toNat / 64) / 4).toUInt8 = b := byte_eq (by omega)
  have third : ((b.toNat % 16 * 4 + c.toNat / 64) % 4 * 64 + c.toNat % 64).toUInt8 = c :=
    byte_eq (by omega)
  rw [group, digit?_digit (by omega), digit?_digit (by omega), digit?_digit (by omega),
    digit?_digit (by omega)]
  show some [_, _, _] = _
  rw [first, second, third]

section Groups

variable {w x y z : Char} {m n k : Nat}

theorem lastGroup_one (hx : digit? x = some m) (hy : digit? y = some n) (spare : n % 16 = 0) :
    lastGroup x y '=' '=' = some [(m * 4 + n / 16).toUInt8] := by
  rw [lastGroup, hx, hy]
  simp [spare]

theorem lastGroup_two (hx : digit? x = some m) (hy : digit? y = some n) (hz : digit? z = some k)
    (other : z ≠ '=') (spare : k % 4 = 0) :
    lastGroup x y z '=' = some [(m * 4 + n / 16).toUInt8, (n % 16 * 16 + k / 4).toUInt8] := by
  rw [lastGroup, hx, hy, hz]
  simp [other, spare]

variable (hz : z ≠ '=') (hw : w ≠ '=')

include hz hw

theorem lastGroup_full (x y : Char) : lastGroup x y z w = group x y z w := by
  rw [lastGroup, group]
  cases digit? x <;> cases digit? y <;> simp [hz, hw]

/-- Four digits without padding are read by themselves, at the end as elsewhere. -/
theorem decode?_full (x y : Char) (rest : List Char) : decode? (x :: y :: z :: w :: rest) =
    (group x y z w).bind fun front => (decode? rest).map (front ++ ·) := by
  cases rest with
  | nil =>
    have last : decode? [x, y, z, w] = lastGroup x y z w := rfl
    rw [last, lastGroup_full hz hw]
    cases group x y z w <;> simp [decode?]
  | cons c rest =>
    rw [decode?]
    · cases group x y z w <;> cases decode? (c :: rest) <;> rfl
    · exact List.cons_ne_nil _ _

end Groups

/-- **Bytes are read back** from their form in base 64. -/
theorem decode?_encode (bs : List UInt8) : decode? (encode bs) = some bs := by
  induction bs using encode.induct with
  | case1 => rfl
  | case2 a =>
    have ha := a.toNat_lt
    have value : (a.toNat / 4 * 4 + a.toNat % 4 * 16 / 16).toUInt8 = a := byte_eq (by omega)
    rw [encode, decode?,
      lastGroup_one (digit?_digit (by omega)) (digit?_digit (by omega)) (by omega), value]
  | case3 a b =>
    have ha := a.toNat_lt
    have hb := b.toNat_lt
    have first : (a.toNat / 4 * 4 + (a.toNat % 4 * 16 + b.toNat / 16) / 16).toUInt8 = a :=
      byte_eq (by omega)
    have second : ((a.toNat % 4 * 16 + b.toNat / 16) % 16 * 16 + b.toNat % 16 * 4 / 4).toUInt8 = b :=
      byte_eq (by omega)
    rw [encode, decode?, lastGroup_two (digit?_digit (by omega)) (digit?_digit (by omega))
      (digit?_digit (by omega)) (digit_ne_padding (by omega)) (by omega), first, second]
  | case4 a b c rest ih =>
    have hb := b.toNat_lt
    have hc := c.toNat_lt
    rw [encode, decode?_full (digit_ne_padding (by omega)) (digit_ne_padding (by omega)),
      group_digits, ih]
    rfl

theorem isBlank_of_mem_encode (bs : List UInt8) : ∀ c ∈ encode bs, isBlank c = false := by
  have padding : isBlank '=' = false := by decide
  induction bs using encode.induct with
  | case1 => exact List.forall_mem_nil _
  | case2 a =>
    have ha := a.toNat_lt
    simp only [encode, List.forall_mem_cons]
    exact ⟨isBlank_digit (by omega), isBlank_digit (by omega), padding, padding,
      List.forall_mem_nil _⟩
  | case3 a b =>
    have ha := a.toNat_lt
    have hb := b.toNat_lt
    simp only [encode, List.forall_mem_cons]
    exact ⟨isBlank_digit (by omega), isBlank_digit (by omega), isBlank_digit (by omega), padding,
      List.forall_mem_nil _⟩
  | case4 a b c rest ih =>
    have ha := a.toNat_lt
    have hb := b.toNat_lt
    have hc := c.toNat_lt
    simp only [encode, List.forall_mem_cons]
    exact ⟨isBlank_digit (by omega), isBlank_digit (by omega), isBlank_digit (by omega),
      isBlank_digit (by omega), ih⟩

end QueryGateway.Text.Base64
