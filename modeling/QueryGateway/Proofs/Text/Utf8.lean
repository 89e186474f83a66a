import QueryGateway.Text.Utf8

/-! Text written as bytes is read back.

The first byte of a character announces the bounds within which its second one lies
(`lead_three`, `lead_four`), and the bits of the character are put together from the most
significant ones on. -/
namespace QueryGateway.Text.Utf8

/-! ### One byte -/

theorem toNat_toUInt8 {n : Nat} (h : n < 256) : n.toUInt8.toNat = n :=
  Nat.mod_eq_of_lt h

theorem toNat_ofNat {n : Nat} (h : n < 256) : (Char.ofNat n).toNat = n := by
  have valid : n.isValidChar := .inl (by omega)
  rw [Char.ofNat, dif_pos valid]
  rfl

theorem scanFrom_ascii {b : Nat} (h : b < 0x80) (rest : List UInt8) :
    scanFrom none (b.toUInt8 :: rest) = some (Char.ofNat b) :: scanFrom none rest := by
  rw [scanFrom, scanFrom.start, toNat_toUInt8 (by omega), if_pos h]

theorem scanFrom_lead {b : Nat} {l : Lead} (above : 0x80 ≤ b) (byte : b < 256)
    (h : lead? b = some l) (rest : List UInt8) :
    scanFrom none (b.toUInt8 :: rest) = scanFrom (some l) rest := by
  rw [scanFrom, scanFrom.start, toNat_toUInt8 byte, if_neg (by omega), h]

section Following

variable {first last bits k : Nat} (low : first ≤ 0x80 + k) (high : 0x80 + k ≤ last) (six : k < 64)
  (rest : List UInt8)

include low high six

theorem scanFrom_last :
    scanFrom (some ⟨1, first, last, bits⟩) ((0x80 + k).toUInt8 :: rest) =
      some (Char.ofNat (bits * 0x40 + k)) :: scanFrom none rest := by
  rw [scanFrom, toNat_toUInt8 (by omega), Nat.add_sub_cancel_left]
  simp [low, high]

theorem scanFrom_next (more : Nat) :
    scanFrom (some ⟨more + 2, first, last, bits⟩) ((0x80 + k).toUInt8 :: rest) =
      scanFrom (some ⟨more + 1, 0x80, 0xBF, bits * 0x40 + k⟩) rest := by
  rw [scanFrom, toNat_toUInt8 (by omega), Nat.add_sub_cancel_left]
  simp [low, high]

end Following

/-! ### First bytes -/

theorem lead_two {n : Nat} (low : 0x80 ≤ n) (high : n < 0x800) :
    lead? (0xC0 + n / 0x40) = some ⟨1, 0x80, 0xBF, n / 0x40⟩ := by
  rw [lead?, if_neg (by omega), if_pos (by omega), Nat.add_sub_cancel_left]

theorem lead_three {n : Nat} (low : 0x800 ≤ n) (high : n < 0x10000)
    (proper : n < 0xD800 ∨ 0xDFFF < n) : ∃ first last,
      lead? (0xE0 + n / 0x1000) = some ⟨2, first, last, n / 0x1000⟩ ∧
      first ≤ 0x80 + n / 0x40 % 0x40 ∧ 0x80 + n / 0x40 % 0x40 ≤ last := by
  rw [lead?, if_neg (by omega), if_neg (by omega)]
  split
  · have bits : n / 0x1000 = 0 := by omega
    rw [bits]
    exact ⟨0xA0, 0xBF, rfl, by omega, by omega⟩
  · split
    · have bits : n / 0x1000 = 0xD := by omega
      rw [bits]
      exact ⟨0x80, 0x9F, rfl, by omega, by omega⟩
    · rw [if_pos (by omega), Nat.add_sub_cancel_left]
      exact ⟨0x80, 0xBF, rfl, by omega, by omega⟩

theorem lead_four {n : Nat} (low : 0x10000 ≤ n) (high : n < 0x110000) : ∃ first last,
      lead? (0xF0 + n / 0x40000) = some ⟨3, first, last, n / 0x40000⟩ ∧
      first ≤ 0x80 + n / 0x1000 % 0x40 ∧ 0x80 + n / 0x1000 % 0x40 ≤ last := by
  rw [lead?, if_neg (by omega), if_neg (by omega), if_neg (by omega), if_neg (by omega),
    if_neg (by omega)]
  split
  · have bits : n / 0x40000 = 0 := by omega
    rw [bits]
    exact ⟨0x90, 0xBF, rfl, by omega, by omega⟩
  · split
    · rw [Nat.add_sub_cancel_left]
      exact ⟨0x80, 0xBF, rfl, by omega, by omega⟩
    · have bits : n / 0x40000 = 4 := by omega
      rw [if_pos (by omega), bits]
      exact ⟨0x80, 0x8F, rfl, by omega, by omega⟩

/-! ### Characters -/

theorem proper_toNat (c : Char) :
    c.toNat < 0xD800 ∨ (0xDFFF < c.toNat ∧ c.toNat < 0x110000) := c.valid

theorem scanFrom_encodeChar (c : Char) (rest : List UInt8) :
    scanFrom none (encodeChar c ++ rest) = some c :: scanFrom none rest := by
  have proper := proper_toNat c
  have whole {n : Nat} (h : n = c.toNat) : some (Char.ofNat n) = some c := by
    rw [h, Char.ofNat_toNat]
  unfold encodeChar
  dsimp only
  split
  · rename_i h1
    rw [List.singleton_append, scanFrom_ascii h1, whole rfl]
  · split
    · rename_i h1 h2
      rw [List.cons_append, List.singleton_append,
        scanFrom_lead (by omega) (by omega) (lead_two (by omega) h2),
        scanFrom_last (by omega) (by omega) (by omega), whole (by omega)]
    · split
      · rename_i h1 h2 h3
        obtain ⟨first, last, hlead, low, high⟩ := lead_three (by omega) h3 (by omega)
        rw [List.cons_append, List.cons_append, List.singleton_append,
          scanFrom_lead (by omega) (by omega) hlead, scanFrom_next low high (by omega),
          scanFrom_last (by omega) (by omega) (by omega), whole (by omega)]
      · rename_i h1 h2 h3
        obtain ⟨first, last, hlead, low, high⟩ :=
          lead_four (n := c.toNat) (by omega) (by omega)
        rw [List.cons_append, List.cons_append, List.cons_append, List.singleton_append,
          scanFrom_lead (by omega) (by omega) hlead, scanFrom_next low high (by omega),
          scanFrom_next (by omega) (by omega) (by omega),
          scanFrom_last (by omega) (by omega) (by omega), whole (by omega)]

/-- An ASCII byte stands for its own character only. -/
theorem mem_encodeChar_iff {b : UInt8} (ascii : b.toNat < 0x80) {c : Char} :
    b ∈ encodeChar c ↔ c.toNat = b.toNat := by
  have proper := proper_toNat c
  have other : ∀ {n : Nat}, 0x80 ≤ n → n < 256 → b ≠ n.toUInt8 := by
    rintro n low high rfl
    rw [toNat_toUInt8 high] at ascii
    omega
  unfold encodeChar
  dsimp only
  split
  · rw [List.mem_singleton]
    constructor
    · rintro rfl
      exact (toNat_toUInt8 (by omega)).symm
    · intro same
      rw [same]
      exact UInt8.toNat_inj.mp (toNat_toUInt8 (by omega)).symm
  · refine iff_of_false ?_ (by omega)
    split
    · simp only [List.mem_cons, List.not_mem_nil, or_false, not_or]
      exact ⟨other (by omega) (by omega), other (by omega) (by omega)⟩
    · split
      · simp only [List.mem_cons, List.not_mem_nil, or_false, not_or]
        exact ⟨other (by omega) (by omega), other (by omega) (by omega), other (by omega) (by omega)⟩
      · simp only [List.mem_cons, List.not_mem_nil, or_false, not_or]
        exact ⟨other (by omega) (by omega), other (by omega) (by omega), other (by omega) (by omega),
          other (by omega) (by omega)⟩

/-! ### Texts -/

/-- Bytes hold a line break where the text does. -/
theorem newline_mem_encodeChars_iff {cs : List Char} : 10 ∈ encodeChars cs ↔ '\n' ∈ cs := by
  rw [encodeChars, List.mem_flatMap]
  constructor
  · rintro ⟨c, hc, here⟩
    have same : c.toNat = '\n'.toNat := (mem_encodeChar_iff (by decide)).mp here
    exact Char.toNat_inj.mp same ▸ hc
  · intro there
    exact ⟨'\n', there, by decide⟩

theorem scan_encodeChars (cs : List Char) : scan (encodeChars cs) = cs.map some := by
  induction cs with
  | nil => rfl
  | cons c cs ih => exact (scanFrom_encodeChar c _).trans (congrArg _ ih)

/-- Every text can be read back from its bytes. -/
theorem decode?_encodeChars (cs : List Char) :
    decode? (encodeChars cs) = some (String.ofList cs) := by
  have all : (cs.map some).mapM id = some cs := by
    induction cs with
    | nil => rfl
    | cons c cs ih => rw [List.map_cons, List.mapM_cons, ih]; rfl
  rw [decode?, scan_encodeChars, all]
  rfl

theorem decode?_encode (s : String) : decode? (encode s) = some s := by
  rw [encode, decode?_encodeChars, String.ofList_toList]

/-- Nothing has to be replaced in the bytes of a text. -/
theorem decodeLossy_encode (s : String) : decodeLossy (encode s) = s := by
  rw [decodeLossy, encode, scan_encodeChars, List.map_map]
  exact (congrArg String.ofList (List.map_id _)).trans String.ofList_toList

/-- Bytes below 0x80 are those of the text that they spell. -/
theorem encodeChars_ascii {bs : List UInt8} (ascii : ∀ b ∈ bs, b.toNat < 0x80) :
    encodeChars (bs.map fun b => Char.ofNat b.toNat) = bs := by
  induction bs with
  | nil => rfl
  | cons b bs ih =>
    obtain ⟨first, others⟩ := List.forall_mem_cons.mp ascii
    have char : encodeChar (Char.ofNat b.toNat) = [b] := by
      rw [encodeChar, toNat_ofNat b.toNat_lt, if_pos first]
      exact congrArg (fun b => [b]) UInt8.ofNat_toNat
    rw [List.map_cons, encodeChars, List.flatMap_cons, char]
    exact congrArg (b :: ·) (ih others)

/-- Different texts have different bytes. -/
theorem encodeChars_inj {cs ds : List Char} : encodeChars cs = encodeChars ds ↔ cs = ds := by
  constructor
  · intro same
    have read := congrArg decode? same
    rw [decode?_encodeChars, decode?_encodeChars] at read
    exact String.ofList_injective (Option.some.inj read)
  · intro same
    rw [same]

end QueryGateway.Text.Utf8
