import QueryGateway.Http.Service
import QueryGateway.Proofs.Json.Object
import QueryGateway.Proofs.Request.Params
import QueryGateway.Proofs.Text.Form

/-! The parameters of a request.

The pairs of the query string and those of the body are one sequence, in which the last value of a
key counts that is not empty (`get?_collectParams`). Pairs that are sent in the query string, as a
form or as a JSON object are therefore the same parameters, and the request that they make is the
same (`parameters_from_any_source`). -/
namespace QueryGateway.Http

open Params (lastFilled memberPairs textObject)

/-! ### The pairs of a request -/

/-- The type of a form. -/
def formType : String := "application/x-www-form-urlencoded"

/-- The pairs of the query string. -/
def queryPairs (r : Request) : List (String × String) := Text.Form.decode (r.target.query.getD [])

/-- The JSON value that the body is, if it can be read as one. -/
def bodyJson? (r : Request) : Option Json := (Text.Utf8.decode? r.body).bind Json.read

/-- The pairs of the body: those of a form, else the members of a JSON object. An object that is
read has each key once, the last of equal ones (`Json.readText_object`). -/
def bodyPairs (r : Request) : List (String × String) :=
  if r.contentType? = some formType then Text.Form.decode r.body
  else
    match bodyJson? r with
    | some (.object ms) => memberPairs ms
    | _ => []

theorem bodyPairs_form {r : Request} (form : r.contentType? = some formType) :
    bodyPairs r = Text.Form.decode r.body := if_pos form

theorem bodyPairs_object {r : Request} {ms : Json.Members} (other : r.contentType? ≠ some formType)
    (object : bodyJson? r = some (.object ms)) : bodyPairs r = memberPairs ms := by
  rw [bodyPairs, if_neg other, object]

theorem bodyPairs_empty {r : Request} (empty : r.body = []) : bodyPairs r = [] := by
  have unread : bodyJson? r = none := by
    rw [bodyJson?, empty]
    rfl
  rw [bodyPairs, unread, empty]
  split <;> rfl

theorem ofQuery_eq (r : Request) :
    Params.ofQuery r.target.query = Params.ofPairs (queryPairs r) := by
  rw [queryPairs]
  cases r.target.query <;> rfl

theorem collectParams_eq (r : Request) :
    collectParams r = Params.ofPairs (queryPairs r ++ bodyPairs r) := by
  have both : Params.ofPairs (queryPairs r ++ bodyPairs r) =
      (Params.ofPairs (queryPairs r)).insertAll (bodyPairs r) := List.foldl_append
  rw [both, ← ofQuery_eq, collectParams]
  by_cases empty : r.body = []
  · rw [if_pos (List.isEmpty_iff.mpr empty), bodyPairs_empty empty]
    rfl
  · rw [if_neg fun h => empty (List.isEmpty_iff.mp h)]
    by_cases form : r.contentType? = some formType
    · rw [bodyPairs_form form]
      exact if_pos form
    · refine (if_neg form).trans ?_
      rw [bodyPairs, if_neg form, ← bodyJson?]
      cases bodyJson? r with
      | none => rfl
      | some v =>
        cases v with
        | object ms => exact Params.mergeJson_object _ ms
        | _ => rfl

/-- **The parameters of a request are the last values that are not empty, of the query string and
behind it of the body.** -/
theorem get?_collectParams (r : Request) (key : String) :
    (collectParams r).get? key = lastFilled key (queryPairs r ++ bodyPairs r) := by
  rw [collectParams_eq]
  exact (Params.get?_insertAll {} _ key).trans Option.or_none

/-- What the body leaves empty is as the query string has it. -/
theorem get?_collectParams_of_empty {r : Request} {key : String}
    (empty : ∀ value, (key, value) ∈ bodyPairs r → value = "") :
    (collectParams r).get? key = lastFilled key (queryPairs r) := by
  rw [get?_collectParams, Params.lastFilled_append, Params.lastFilled_eq_none_iff.mpr empty]
  rfl

/-! ### Ways to send pairs -/

/-- The text of an object with the given members, in the order given. -/
def objectBody (ms : List (String × Json)) : List UInt8 :=
  Text.Utf8.encodeChars ('\x7b' :: Json.renderMembers ms)

/-- The body that is the text of an object is read as the object. -/
theorem bodyJson?_objectBody {r : Request} {ms : List (String × Json)}
    (body : r.body = objectBody ms) (regular : Json.RegularMembers ms)
    (shallow : Json.depthMembers ms < Json.nestingLimit) :
    bodyJson? r = some (Json.ofMembers ms) := by
  rw [bodyJson?, body, objectBody, Text.Utf8.decode?_encodeChars]
  show Json.read (String.ofList _) = _
  rw [Json.read, String.toList_ofList, Json.readText_renderMembers regular, if_pos shallow]

/-- How a request can carry pairs: in its query string, as a form, or as a JSON object of strings,
written in any order and any way; the other place holds no pairs then. -/
inductive Carries (pairs : List (String × String)) (r : Request) : Prop where
  | query (query : r.target.query = some (Text.Form.encode pairs)) (alone : bodyPairs r = [])
  | form (alone : queryPairs r = []) (type : r.contentType? = some formType)
      (body : r.body = Text.Form.encode pairs)
  | object (alone : queryPairs r = []) (type : r.contentType? ≠ some formType)
      (body : bodyJson? r = some (.object (textObject pairs)))

section Ways

variable {pairs : List (String × String)} {r r₁ r₂ : Request}
  (distinct : (pairs.map Prod.fst).Nodup)

include distinct

/-- Whatever way pairs are sent, a key has the value of its pair, unless that is empty. -/
theorem get?_of_carries (carried : Carries pairs r) (key : String) :
    (collectParams r).get? key = (pairs.lookup key).filter (· ≠ "") := by
  rw [get?_collectParams, ← Params.lastFilled_of_nodup distinct]
  cases carried with
  | query query alone =>
    rw [alone, List.append_nil, queryPairs, query]
    exact congrArg (lastFilled key) (Text.Form.decode_encode pairs)
  | form alone type body =>
    rw [alone, List.nil_append, bodyPairs_form type, body, Text.Form.decode_encode]
  | object alone type body =>
    rw [alone, List.nil_append, bodyPairs_object type body]
    exact Params.lastFilled_textObject distinct key

theorem agrees_of_carries (first : Carries pairs r₁) (second : Carries pairs r₂) :
    (collectParams r₁).Agrees (collectParams r₂) := fun key => by
  rw [get?_of_carries distinct first, get?_of_carries distinct second]

end Ways

theorem Service.statementRequest_of_agrees {p q : Params} (agree : p.Agrees q) (s : Service)
    (user : String) {r₁ r₂ : Request} (key : s.headerKey? r₁ = s.headerKey? r₂) :
    s.statementRequest user p r₁ = s.statementRequest user q r₂ := by
  simp only [statementRequest, agree.request, agree "key", key]

/-- **Parameters come from any source alike.** Of the values that a key has in the query string
and behind it in the body, the last one counts that is not empty; one that is empty or null behind
it erases nothing. Pairs with keys of their own arrive as they were sent, and are the same
parameters, and so the same statement and the same request or refusal, whether they come in the
query string, as a form or as a JSON object of strings; and a body that is the text of an object is
read as that object. -/
theorem parameters_from_any_source :
    (∀ r key, (collectParams r).get? key = lastFilled key (queryPairs r ++ bodyPairs r)) ∧
    (∀ r key, (∀ value, (key, value) ∈ bodyPairs r → value = "") →
      (collectParams r).get? key = lastFilled key (queryPairs r)) ∧
    (∀ pairs r₁ r₂, (pairs.map Prod.fst).Nodup → Carries pairs r₁ → Carries pairs r₂ →
      (∀ key, (collectParams r₁).get? key = (pairs.lookup key).filter (· ≠ "")) ∧
      (collectParams r₁).Agrees (collectParams r₂) ∧
      (collectParams r₁).statement = (collectParams r₂).statement ∧
      (∀ subuser apiKey,
        (collectParams r₁).request subuser apiKey = (collectParams r₂).request subuser apiKey) ∧
      ∀ (s : Service) user, s.headerKey? r₁ = s.headerKey? r₂ →
        s.statementRequest user (collectParams r₁) r₁ =
          s.statementRequest user (collectParams r₂) r₂) ∧
    (∀ r ms, r.body = objectBody ms → Json.RegularMembers ms →
      Json.depthMembers ms < Json.nestingLimit → bodyJson? r = some (Json.ofMembers ms)) := by
  refine ⟨get?_collectParams, fun _ _ => get?_collectParams_of_empty, ?_,
    fun _ _ => bodyJson?_objectBody⟩
  intro pairs r₁ r₂ distinct first second
  have agree := agrees_of_carries distinct first second
  exact ⟨get?_of_carries distinct first, agree, agree.statement, agree.request,
    fun s user => s.statementRequest_of_agrees agree user⟩

/-- A survey as a request carries it: what is asked for and the form of the answer. -/
def survey : List (String × String) := [("q", "SELECT 'é+%' & 1;"), ("format", "csv")]

/-- A request with a query string, content of some type, and a body. -/
def roadsRequest (query : Option (List UInt8)) (type : String) (body : List UInt8) : Request where
  method := "POST"
  target := ⟨"/roads", query⟩
  headers := [("content-type", Text.Utf8.encode type)]
  body := body

theorem contentType?_roadsRequest (query : Option (List UInt8)) (type : String) (body : List UInt8) :
    (roadsRequest query type body).contentType? =
      (headerText? (Text.Utf8.encode type)).map fun value =>
        (Text.trim (String.ofList (value.toList.takeWhile (· ≠ ';')))).toLower := by
  have header : (roadsRequest query type body).header? "content-type" =
      some (Text.Utf8.encode type) :=
    congrArg (Option.map Prod.snd) (List.find?_cons_of_pos (decide_eq_true rfl))
  rw [Request.contentType?, header]
  show (headerText? (Text.Utf8.encode type)).bind _ = _
  cases headerText? (Text.Utf8.encode type) <;> rfl

def queriedSurvey : Request :=
  roadsRequest (some (Text.Form.encode survey)) "text/plain" []

def filledSurvey : Request :=
  roadsRequest none (formType ++ "; charset=utf-8") (Text.Form.encode survey)

def writtenSurvey : Request :=
  roadsRequest none "application/json" (objectBody (survey.map fun p => (p.1, .string p.2)))

/-- A survey whose body leaves the form of the answer empty. -/
def blankedSurvey : Request :=
  roadsRequest (some (Text.Form.encode survey)) formType (Text.Form.encode [("format", "")])

theorem survey_from_any_source :
    (collectParams queriedSurvey).Agrees (collectParams filledSurvey) ∧
      (collectParams writtenSurvey).get? "q" = some "SELECT 'é+%' & 1;" ∧
      (collectParams filledSurvey).statement = (collectParams writtenSurvey).statement ∧
      (collectParams blankedSurvey).get? "format" = some "csv" := by
  have distinct : (survey.map Prod.fst).Nodup := by decide
  have queried : Carries survey queriedSurvey := .query rfl (bodyPairs_empty rfl)
  have filled : Carries survey filledSurvey := by
    refine .form rfl ?_ rfl
    rw [filledSurvey, contentType?_roadsRequest]
    decide +kernel
  have written : Carries survey writtenSurvey := by
    refine .object rfl ?_ ?_
    · rw [writtenSurvey, contentType?_roadsRequest]
      decide +kernel
    · exact parameters_from_any_source.2.2.2 _ _ rfl ⟨trivial, trivial, trivial⟩ (by decide)
  have blank : ∀ value, ("format", value) ∈ bodyPairs blankedSurvey → value = "" := by
    have form : blankedSurvey.contentType? = some formType := by
      rw [blankedSurvey, contentType?_roadsRequest]
      decide +kernel
    have body : bodyPairs blankedSurvey = [("format", "")] :=
      (bodyPairs_form form).trans (Text.Form.decode_encode _)
    rw [body]
    intro value hv
    exact congrArg Prod.snd (List.mem_singleton.mp hv)
  have kept : queryPairs blankedSurvey = survey := Text.Form.decode_encode survey
  obtain ⟨-, agree, -⟩ :=
    parameters_from_any_source.2.2.1 survey _ _ distinct queried filled
  obtain ⟨found, -, statement, -⟩ :=
    parameters_from_any_source.2.2.1 survey _ _ distinct written filled
  refine ⟨agree, (found "q").trans (by decide), statement.symm, ?_⟩
  rw [parameters_from_any_source.2.1 _ _ blank, kept]
  decide

end QueryGateway.Http
