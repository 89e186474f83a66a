import QueryGateway.Proofs.Http.Parameters
import QueryGateway.Proofs.Request.Statement

/-! The statement that a request brings.

A statement is spelled once as a parameter, and the parameter may be spelled once more as a pair of
a form. Each of the two readings undoes its own spelling, so the statement is what was written
(`statement_arrives_unchanged`). -/
namespace QueryGateway.Http

open Params (lastFilled Spells)

/-- How a value of a key reaches a request: as a form-encoded pair among others of its query string
or its body, none behind it with another value of the key, or as a member of its body. -/
inductive Reaches (r : Request) (key value : String) : Prop where
  | query {before behind : List (List UInt8)}
      (query : r.target.query =
        some (Text.Form.join (before ++ Text.Form.encodePair (key, value) :: behind)))
      (last : lastFilled key (behind.flatMap Text.Form.decode ++ bodyPairs r) = none)
  | form {before behind : List (List UInt8)} (type : r.contentType? = some formType)
      (body : r.body = Text.Form.join (before ++ Text.Form.encodePair (key, value) :: behind))
      (last : lastFilled key (behind.flatMap Text.Form.decode) = none)
  | object {ms : Json.Members} (type : r.contentType? ≠ some formType)
      (body : bodyJson? r = some (.object ms)) (member : ms.get? key = some (.string value))

theorem sorted_of_bodyJson? {r : Request} {ms : Json.Members}
    (h : bodyJson? r = some (.object ms)) : ms.Sorted := by
  obtain ⟨text, -, read⟩ := Option.bind_eq_some_iff.mp h
  exact Json.sorted_of_readText read

theorem decode_join_around (before behind : List (List UInt8)) (pair : String × String) :
    Text.Form.decode (Text.Form.join (before ++ Text.Form.encodePair pair :: behind)) =
      before.flatMap Text.Form.decode ++ pair :: behind.flatMap Text.Form.decode := by
  rw [Text.Form.decode_join, List.flatMap_append, List.flatMap_cons, Text.Form.decode_encodePair]
  rfl

/-- A value that is not empty is found where it reaches a request. -/
theorem get?_of_reaches {r : Request} {key value : String} (filled : value ≠ "")
    (reaches : Reaches r key value) : (collectParams r).get? key = some value := by
  rw [get?_collectParams]
  cases reaches with
  | query query last =>
    rw [queryPairs, query]
    show lastFilled key (Text.Form.decode (Text.Form.join _) ++ _) = _
    rw [decode_join_around, List.append_assoc, List.cons_append]
    exact Params.lastFilled_of_last filled last _
  | form type body last =>
    rw [bodyPairs_form type, body, decode_join_around, ← List.append_assoc]
    exact Params.lastFilled_of_last filled last _
  | object type body member =>
    have here : lastFilled key (bodyPairs r) = some value := by
      rw [bodyPairs_object type body, Params.lastFilled_memberPairs (sorted_of_bodyJson? body),
        member]
      exact Option.filter_some_pos (decide_eq_true filled)
    rw [Params.lastFilled_append, here]
    rfl

/-- **The statement arrives unchanged.** Whatever characters it has, if it is not blank: its
percent-encoding without a mark, or its bytes in base 64 and the mark, are the statement itself
once they reach a request, in its query string, as a form or as a member of a JSON object. No
parameters at all have a blank statement; it is missing then. -/
theorem statement_arrives_unchanged :
    (∀ (s raw : String) (mark : Option String) (r : Request), Text.isBlankText s = false →
      Spells s raw mark → Reaches r "q" raw → (collectParams r).get? "base64" = mark →
        (collectParams r).statement = .ok s) ∧
    (∀ p : Params, (∃ sql, p.statement = .ok sql ∧ Text.isBlankText sql = false) ∨
      p.statement = .error .missingQuery) ∧
    Refusal.missingQuery.code = 403 := by
  refine ⟨?_, Params.statement_cases, rfl⟩
  intro s raw mark r filled spelled reaches marked
  have found := get?_of_reaches (Params.ne_empty_of_spells filled spelled) reaches
  exact Params.statement_of_spells filled spelled found marked

/-- A statement with marks, a line break and a letter that form encoding spells. -/
def markedStatement : String := "SELECT 'é+%' & 1;\n"

/-- A request with the statement percent-encoded in its query string, a format behind it. -/
def queriedStatement : Request :=
  roadsRequest
    (some (Text.Form.encode [("q", Params.percentSpelling markedStatement), ("format", "csv")]))
    "text/plain" []

/-- The statement in base 64 as a member of an object, marked so, with blanks around it. -/
def statementMembers : List (String × Json) :=
  [("q", .string (String.ofList
      (" ".toList ++ Text.Base64.encode (Text.Utf8.encode markedStatement) ++ "\n".toList))),
    ("base64", .bool true)]

def writtenStatement : Request :=
  roadsRequest none "application/json" (objectBody statementMembers)

theorem marked_statement_arrives :
    (collectParams queriedStatement).statement = .ok markedStatement ∧
      (collectParams writtenStatement).statement = .ok markedStatement := by
  have filled : Text.isBlankText markedStatement = false := by decide
  constructor
  · have alone : bodyPairs queriedStatement = [] := bodyPairs_empty rfl
    have reaches : Reaches queriedStatement "q" (Params.percentSpelling markedStatement) := by
      refine @Reaches.query _ _ _ [] [Text.Form.encodePair ("format", "csv")] rfl ?_
      rw [alone, List.flatMap_singleton, Text.Form.decode_encodePair]
      decide
    have unmarked : (collectParams queriedStatement).get? "base64" = none := by
      have pairs : queryPairs queriedStatement =
          [("q", Params.percentSpelling markedStatement), ("format", "csv")] :=
        Text.Form.decode_encode _
      rw [get?_collectParams, alone, pairs, Params.lastFilled_eq_none_iff]
      simp
    exact statement_arrives_unchanged.1 _ _ _ _ filled .percent reaches unmarked
  · have type : writtenStatement.contentType? ≠ some formType := by
      rw [writtenStatement, contentType?_roadsRequest]
      decide +kernel
    have body : bodyJson? writtenStatement = some (Json.ofMembers statementMembers) :=
      bodyJson?_objectBody rfl ⟨trivial, trivial, trivial⟩ (by decide)
    have members (key : String) : (Json.Members.ofList statementMembers).get? key =
        statementMembers.reverse.lookup key :=
      (Json.Members.get?_extend [] statementMembers key).trans Option.or_none
    have reaches := Reaches.object type body (members "q")
    have marked : (collectParams writtenStatement).get? "base64" = some "true" := by
      have alone : queryPairs writtenStatement = [] := rfl
      rw [get?_collectParams, alone, List.nil_append, bodyPairs_object type body,
        Params.lastFilled_memberPairs (Json.Members.sorted_ofList _), members]
      rfl
    have before := List.all_eq_true.mp (show " ".toList.all Text.isBlank = true from rfl)
    have behind := List.all_eq_true.mp (show "\n".toList.all Text.isBlank = true from rfl)
    exact statement_arrives_unchanged.1 _ _ _ _ filled (.base64 before behind (.inl rfl)) reaches
      marked

end QueryGateway.Http
