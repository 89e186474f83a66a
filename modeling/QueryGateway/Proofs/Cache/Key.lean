import QueryGateway.Cache.Key
import QueryGateway.Proofs.Text.Hex
import QueryGateway.Proofs.Text.Utf8

/-! What a key tells apart.

The lifetime is written without an underscore, so the last underscore of the material of a
key stands between the statement and the lifetime, whatever the statement holds
(`material_inj`). Two keys are the same only where the statements and lifetimes are, unless the
digests of different bytes are the same (`Key.of_inj`). -/
namespace QueryGateway.Cache

/-- A last separator tells what stands before it from what stands behind it. -/
theorem append_separator_inj {α : Type} {c : α} {xs ys ds es : List α} (hd : c ∉ ds)
    (he : c ∉ es) : xs ++ c :: ds = ys ++ c :: es ↔ xs = ys ∧ ds = es := by
  constructor
  · intro same
    rcases List.append_eq_append_iff.mp same with ⟨between, rfl, hs⟩ | ⟨between, rfl, hs⟩
    · cases between with
      | nil => exact ⟨(List.append_nil _).symm, List.tail_eq_of_cons_eq hs⟩
      | cons _ between =>
        rw [List.tail_eq_of_cons_eq hs] at hd
        exact absurd (List.mem_append_right between (List.mem_cons_self ..)) hd
    · cases between with
      | nil => exact ⟨List.append_nil _, (List.tail_eq_of_cons_eq hs).symm⟩
      | cons _ between =>
        rw [List.tail_eq_of_cons_eq hs] at he
        exact absurd (List.mem_append_right between (List.mem_cons_self ..)) he
  · intro same
    rw [same.1, same.2]

theorem toDigits_inj {m n : Nat} : Nat.toDigits 10 m = Nat.toDigits 10 n ↔ m = n := by
  constructor
  · intro same
    rw [← Nat.ofDigitChars_ten_toDigits (n := m), same, Nat.ofDigitChars_ten_toDigits]
  · intro same
    rw [same]

/-- The material of a key tells statements apart up to the blanks around them, and lifetimes
up to parts of a second. -/
theorem material_inj {s t : String} {l k : Span} :
    material s l = material t k ↔ Text.trim s = Text.trim t ∧ l.seconds = k.seconds := by
  rw [material, material, append_separator_inj Nat.underscore_not_in_toDigits
    Nat.underscore_not_in_toDigits, toDigits_inj, Text.trim, Text.trim, String.ofList_inj]

/-- The bytes that a key is the digest of. -/
def keyBytes (sql : String) (lifetime : Span) : List UInt8 :=
  Text.Utf8.encodeChars (material sql lifetime)

theorem keyBytes_inj {s t : String} {l k : Span} :
    keyBytes s l = keyBytes t k ↔ Text.trim s = Text.trim t ∧ l.seconds = k.seconds := by
  rw [keyBytes, keyBytes, Text.Utf8.encodeChars_inj, material_inj]

theorem Key.of_congr {s t : String} {l k : Span} (statement : Text.trim s = Text.trim t)
    (lifetime : l.seconds = k.seconds) : Key.of s l = Key.of t k :=
  congrArg (fun bytes => Key.mk (Digest.sha256Hex bytes)) (keyBytes_inj.mpr ⟨statement, lifetime⟩)

theorem Key.of_inj {s t : String} {l k : Span}
    (apart : Digest.sha256 (keyBytes s l) = Digest.sha256 (keyBytes t k) →
      keyBytes s l = keyBytes t k) :
    Key.of s l = Key.of t k ↔ Text.trim s = Text.trim t ∧ l.seconds = k.seconds := by
  constructor
  · intro same
    have digests : Digest.sha256 (keyBytes s l) = Digest.sha256 (keyBytes t k) :=
      Text.Hex.encode_inj.mp (congrArg Key.digest same)
    exact keyBytes_inj.mp (apart digests)
  · intro same
    exact Key.of_congr same.1 same.2

end QueryGateway.Cache
