import QueryGateway.Http.Service
import QueryGateway.Proofs.Gateway.EnvelopeForm

/-! The body of a stream: one JSON document a line.

The documents are the rows before the first failure and, if there is one, its envelope; nothing
stands behind it (`streamLines_eq`). No text of a document holds a line break, so the body splits
into their texts at its line breaks, and each text gives its document back (`framing_lossless`). -/
namespace QueryGateway.Http

open Json
open Text.Utf8 (encodeChars decode?)

/-! ### What a stream delivers -/

section Stream

variable {ε α : Type}

/-- The rows before the first failure. -/
def delivered : List (Except ε α) → List α
  | .ok row :: rest => row :: delivered rest
  | _ => []

/-- The first failure. -/
def failure? : List (Except ε α) → Option ε
  | [] => none
  | .ok _ :: rest => failure? rest
  | .error e :: _ => some e

/-- A stream is the rows that it delivers, its first failure, and what stands behind that. -/
theorem exists_behind (rows : List (Except ε α)) : ∃ behind,
    rows = (delivered rows).map .ok ++ ((failure? rows).map .error).toList ++ behind ∧
      (failure? rows = none → behind = []) := by
  induction rows with
  | nil => exact ⟨[], rfl, fun _ => rfl⟩
  | cons row rest ih =>
    cases row with
    | error e => exact ⟨rest, rfl, nofun⟩
    | ok row =>
      obtain ⟨behind, whole, none⟩ := ih
      exact ⟨behind, congrArg (.ok row :: ·) whole, none⟩

theorem mem_of_mem_delivered {rows : List (Except ε α)} {row : α} (h : row ∈ delivered rows) :
    .ok row ∈ rows := by
  obtain ⟨behind, whole, -⟩ := exists_behind rows
  rw [whole]
  exact List.mem_append_left _ (List.mem_append_left _ (List.mem_map_of_mem h))

end Stream

/-! ### Lines -/

/-- The documents of a stream: its rows, and the envelope of the failure that ends it. -/
def documents (g : Gateway) (rows : List (Except ExecutionError Json)) : List Json :=
  delivered rows ++
    ((failure? rows).map fun e => (g.failure (.execution e)).toJson).toList

/-- The bytes of a document. -/
def lineBytes (v : Json) : List UInt8 := encodeChars v.renderChars

/-- The document of a line. -/
def ofLine? (line : List UInt8) : Option Json := (decode? line).bind fun s => readWhole s.toList

theorem streamLines_eq (g : Gateway) (rows : List (Except ExecutionError Json)) :
    streamLines g rows = (documents g rows).flatMap lineOf := by
  induction rows with
  | nil => rfl
  | cons row rest ih =>
    cases row with
    | error e => exact (List.append_nil _).symm
    | ok row => exact congrArg (lineOf row ++ ·) ih

theorem newline_notMem_lineBytes (v : Json) : 10 ∉ lineBytes v :=
  mt Text.Utf8.newline_mem_encodeChars_iff.mp v.newline_notMem_renderChars

/-- A line gives its document back. -/
theorem ofLine?_lineBytes {v : Json} (h : v.Regular) : ofLine? (lineBytes v) = some v := by
  rw [ofLine?, lineBytes, Text.Utf8.decode?_encodeChars, Option.bind_some, String.toList_ofList,
    readWhole_renderChars h]

/-- The reader of request bodies goes no deeper than it does elsewhere. -/
theorem read_lineBytes {v : Json} (h : v.Regular) :
    (decode? (lineBytes v)).bind Json.read = if v.depth ≤ nestingLimit then some v else none := by
  rw [lineBytes, Text.Utf8.decode?_encodeChars, Option.bind_some, Json.read, String.toList_ofList,
    ← readWithin_nestingLimit, readWithin_renderChars h]

theorem body_eq (g : Gateway) (rows : List (Except ExecutionError Json)) :
    (streamResponse g (.rows rows)).body =
      ((documents g rows).map lineBytes).flatMap (· ++ [10]) := by
  have line : ∀ v, encodeChars (lineOf v) = lineBytes v ++ [10] := by
    intro v
    rw [lineOf, encodeChars, List.flatMap_append]
    rfl
  show encodeChars (streamLines g rows) = _
  rw [streamLines_eq, encodeChars, List.flatMap_assoc, List.flatMap_map]
  exact congrArg (fun f => List.flatMap f (documents g rows)) (funext line)

/-- Lines without line breaks of their own are what their text splits into. -/
theorem splitOn_lines {lines : List (List UInt8)} (h : ∀ line ∈ lines, 10 ∉ line) :
    (lines.flatMap (· ++ [10])).splitOn 10 = lines ++ [[]] := by
  have joined : lines.flatMap (· ++ [10]) = [10].intercalate (lines ++ [[]]) := by
    clear h
    induction lines with
    | nil => rfl
    | cons line rest ih =>
      rw [List.flatMap_cons, ih]
      cases rest <;> simp [List.intercalate]
  rw [joined]
  refine List.splitOn_intercalate 10 (fun line hl => ?_) (by simp)
  rcases List.mem_append.mp hl with hl | hl
  · exact h line hl
  · rw [List.mem_singleton.mp hl]
    exact List.not_mem_nil

/-! ### The envelope of a failure -/

theorem regular_failure (g : Gateway) (e : ExecutionError) :
    (g.failure (.execution e)).Regular where
  data := nofun
  affected := nofun
  times := List.forall_mem_nil _
  authCheck := nofun
  extra := ⟨.nil, trivial⟩

theorem ofJson?_failure (g : Gateway) (e : ExecutionError) :
    Envelope.ofJson? (g.failure (.execution e)).toJson = some (g.failure (.execution e)) :=
  Envelope.ofJson?_toJson (regular_failure g e) (List.forall_mem_nil _)

/-- **The framing of a stream loses nothing.** Its body is one line for each row before the first
failure and one for the envelope of that, if there is one; no line holds a line break; split at its
line breaks and read line by line, the body gives these rows and this envelope back, and nothing
else. -/
theorem framing_lossless (g : Gateway) {rows : List (Except ExecutionError Json)}
    (regular : ∀ row, .ok row ∈ rows → row.Regular) :
    let body := (streamResponse g (.rows rows)).body
    let lines := (documents g rows).map lineBytes
    body = lines.flatMap (· ++ [10]) ∧
    (body = [] ∨ body.getLast? = some 10) ∧
    (∀ line ∈ lines, 10 ∉ line) ∧
    body.splitOn 10 = lines ++ [[]] ∧
    lines.map ofLine? = (documents g rows).map some ∧
    ∀ e, failure? rows = some e → ∃ last, lines.getLast? = some last ∧
      (ofLine? last).bind Envelope.ofJson? = some { (g.failure (.execution e)) with
        success := false, code := some e.code, message := some e.message } := by
  intro body lines
  have whole : body = lines.flatMap (· ++ [10]) := body_eq g rows
  have apart : ∀ line ∈ lines, 10 ∉ line := by
    intro line hl
    obtain ⟨v, -, rfl⟩ := List.mem_map.mp hl
    exact newline_notMem_lineBytes v
  have documentsRegular : ∀ v ∈ documents g rows, v.Regular := by
    intro v hv
    rcases List.mem_append.mp hv with hv | hv
    · exact regular v (mem_of_mem_delivered hv)
    · obtain ⟨e, -, rfl⟩ := Option.map_eq_some_iff.mp (Option.mem_toList.mp hv)
      exact Envelope.regular_toJson (regular_failure g e)
  refine ⟨whole, ?_, apart, ?_, ?_, ?_⟩
  · rw [whole]
    rcases List.eq_nil_or_concat lines with none | ⟨front, last, ends⟩
    · exact .inl (by rw [none]; rfl)
    · refine .inr ?_
      rw [ends, List.concat_eq_append, List.flatMap_append, List.flatMap_singleton,
        ← List.append_assoc, List.getLast?_concat]
  · rw [whole, splitOn_lines apart]
  · rw [List.map_map]
    exact List.map_congr_left fun v hv => ofLine?_lineBytes (documentsRegular v hv)
  · intro e failed
    have documents_eq :
        documents g rows = delivered rows ++ [(g.failure (.execution e)).toJson] := by
      rw [documents, failed]
      rfl
    refine ⟨lineBytes (g.failure (.execution e)).toJson, ?_, ?_⟩
    · show ((documents g rows).map lineBytes).getLast? = _
      rw [documents_eq, List.map_append, List.map_singleton, List.getLast?_concat]
    · rw [ofLine?_lineBytes (Envelope.regular_toJson (regular_failure g e)), Option.bind_some,
        ofJson?_failure]
      rfl

/-- A stream that breaks off behind a row with a line break in it. -/
def brokenOff : List (Except ExecutionError Json) :=
  [.ok (.object [("a\nb", .string "\n")]), .error (.connection "gone"), .ok .null]

theorem brokenOff_framed :
    (∀ row, .ok row ∈ brokenOff → row.Regular) ∧
      ((streamResponse {} (.rows brokenOff)).body.splitOn 10).length = 3 ∧
      ∃ last, (((documents {} brokenOff).map lineBytes).getLast? = some last) ∧
        ((ofLine? last).bind Envelope.ofJson?).map Envelope.code = some (some 503) := by
  have regular : ∀ row, .ok row ∈ brokenOff → row.Regular := by
    intro row h
    simp only [brokenOff, List.mem_cons, List.not_mem_nil, or_false, reduceCtorEq, false_or,
      Except.ok.injEq] at h
    rcases h with rfl | rfl
    · exact ⟨List.pairwise_singleton _ _, trivial, trivial⟩
    · trivial
  obtain ⟨-, -, -, split, -, failed⟩ := framing_lossless {} regular
  obtain ⟨last, stands, read⟩ := failed (.connection "gone") rfl
  refine ⟨regular, ?_, last, stands, ?_⟩
  · rw [split]
    rfl
  · rw [read]
    rfl

end QueryGateway.Http
