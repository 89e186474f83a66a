import QueryGateway.Proofs.Request.Params
import QueryGateway.Proofs.Text.Base64
import QueryGateway.Proofs.Text.Blank
import QueryGateway.Proofs.Text.Percent

/-! The statement that a parameter spells.

A statement is percent-encoded, or in base 64 and marked so. Either way its bytes are spelled with
characters that no reading replaces, so that what is read is the statement itself
(`statement_of_spells`), whatever characters it has. -/
namespace QueryGateway.Params

/-! ### Percent signs -/

/-- What is left as it is in a percent-encoded statement, beside letters and digits. -/
def statementMarks : List Char := ['-', '.', '_', '~']

/-- A statement with every byte spelled but those of letters, digits and some marks. -/
def percentSpelling (s : String) : String :=
  String.ofList
    ((Text.Percent.encode statementMarks (Text.Utf8.encode s)).map fun b => Char.ofNat b.toNat)

theorem percentText_percentSpelling (s : String) : percentText (percentSpelling s) = s := by
  have ascii : ∀ c ∈ statementMarks, c.toNat < 0x80 := by simp [statementMarks]
  have bytes : Text.Utf8.encode (percentSpelling s) =
      Text.Percent.encode statementMarks (Text.Utf8.encode s) := by
    rw [percentSpelling, Text.Utf8.encode, String.toList_ofList]
    exact Text.Utf8.encodeChars_ascii fun b hb => Text.Percent.ascii_of_mem_encode ascii hb
  rw [percentText, bytes, Text.Percent.decode_encode (by decide), Text.Utf8.decode?_encode]
  rfl

theorem percentText_empty : percentText "" = "" := rfl

/-! ### Base 64 -/

theorem base64Text_around (s : String) {before behind : List Char}
    (hb : ∀ c ∈ before, Text.isBlank c = true) (ha : ∀ c ∈ behind, Text.isBlank c = true) :
    base64Text (String.ofList (before ++ Text.Base64.encode (Text.Utf8.encode s) ++ behind)) =
      s := by
  rw [base64Text, String.toList_ofList,
    Text.trimChars_around (Text.Base64.isBlank_of_mem_encode _) hb ha, Text.Base64.decode?_encode]
  show (Text.Utf8.decode? (Text.Utf8.encode s)).getD "" = s
  rw [Text.Utf8.decode?_encode]
  rfl

theorem base64Text_empty : base64Text "" = "" := rfl

/-! ### Statements -/

/-- What spells a statement: its percent-encoding without a mark, or its bytes in base 64, blanks
around them, with the mark that says so. -/
inductive Spells (s : String) : String → Option String → Prop where
  | percent : Spells s (percentSpelling s) none
  | base64 {before behind : List Char} {mark : String}
      (hb : ∀ c ∈ before, Text.isBlank c = true) (ha : ∀ c ∈ behind, Text.isBlank c = true)
      (yes : mark = "true" ∨ mark = "1") :
      Spells s (String.ofList (before ++ Text.Base64.encode (Text.Utf8.encode s) ++ behind))
        (some mark)

section Spelled

variable {s raw : String} {mark : Option String} (filled : Text.isBlankText s = false)
  (spelled : Spells s raw mark)

include filled spelled

/-- What spells a statement is not empty: nothing spells no more than a blank text. -/
theorem ne_empty_of_spells : raw ≠ "" := by
  have blank : s ≠ "" := by
    rintro rfl
    cases filled
  rintro empty
  cases spelled with
  | percent =>
    have read := percentText_percentSpelling s
    rw [empty, percentText_empty] at read
    exact blank read.symm
  | base64 hb ha yes =>
    have read := base64Text_around s hb ha
    rw [empty, base64Text_empty] at read
    exact blank read.symm

/-- **The statement is the one that is spelled.** -/
theorem statement_of_spells {p : Params} (found : p.get? "q" = some raw)
    (marked : p.get? "base64" = mark) : p.statement = .ok s := by
  have read : (if p.flag "base64" then base64Text raw else percentText raw) = s := by
    cases spelled with
    | percent =>
      have unmarked : p.flag "base64" = false := by
        rw [flag, marked]
      rw [unmarked, if_neg Bool.false_ne_true, percentText_percentSpelling]
    | base64 hb ha yes =>
      have flagged : p.flag "base64" = true := by
        rw [flag, marked]
        rcases yes with rfl | rfl <;> rfl
      rw [flagged, if_pos rfl, base64Text_around s hb ha]
  rw [statement, found]
  dsimp only
  rw [read, filled]
  rfl

end Spelled

end QueryGateway.Params
