import QueryGateway.Json.Basic
import QueryGateway.Tree

/-! Reading a statement tree from its JSON form.

A list that is missing is empty, a missing name is none, and a missing flag is off; a field
that is null counts as missing. Fields that a form does not have are passed over. -/
namespace QueryGateway

/-- A value within another. -/
abbrev Json.Part (j : Json) := { v : Json // sizeOf v < sizeOf j }

private theorem sizeOf_lt_of_lookup {key : String} {v : Json} {ms : Json.Members}
    (h : ms.lookup key = some v) : sizeOf v < sizeOf ms := by
  induction ms with
  | nil => simp at h
  | cons m rest ih =>
    obtain ⟨k, w⟩ := m
    simp only [List.lookup_cons] at h
    split at h
    · cases h
      simp +arith
    · have := ih h
      simp only [List.cons.sizeOf_spec, Prod.mk.sizeOf_spec]
      omega

/-- The field of a key, unless it is missing or null. -/
def Json.part? (key : String) : (j : Json) → Option j.Part
  | .object ms =>
    match h : ms.lookup key with
    | none | some .null => none
    | some v => some ⟨v, by have := sizeOf_lt_of_lookup h; simp; omega⟩
  | _ => none

/-- The elements of an array. -/
def Json.parts? : (j : Json) → Option (List j.Part)
  | .array items => some <| items.attach.map fun ⟨v, h⟩ =>
    ⟨v, by have := List.sizeOf_lt_of_mem h; simp; omega⟩
  | _ => none

/-- The elements of the array under a key, none if it is missing. -/
def Json.listed? (key : String) (j : Json) : Option (List j.Part) :=
  match j.part? key with
  | none => some []
  | some ⟨v, h⟩ => do return (← v.parts?).map fun ⟨w, hw⟩ => ⟨w, Nat.lt_trans hw h⟩

namespace Tree

private def textAt? (key : String) (j : Json) : Option String :=
  j.part? key >>= fun v => v.val.asString?

private def optionalTextAt? (key : String) (j : Json) : Option (Option String) :=
  match j.part? key with
  | none => some none
  | some v => v.val.asString?.map some

/-- What a `CREATE` makes, from its JSON form. -/
def CreatedKind.ofJson? : Json → Option CreatedKind
  | .string "view" => some .view
  | .string "table" => some .table
  | j => .other <$> textAt? "other" j

mutual

/-- A statement from its JSON form. -/
def Statement.ofJson? (j : Json) : Option Statement := do
  let kind ← textAt? "kind" j
  let ⟨body, _⟩ ← j.part? "statement"
  match kind with
  | "query" => return .query (← Query.ofJson? body)
  | "insert" =>
    let source ← match body.part? "source" with
      | none => pure none
      | some ⟨q, _⟩ => some <$> Query.ofJson? q
    return .insert ⟨← textAt? "table" body, source, ← queriesAt? "subqueries" body⟩
  | "update" =>
    return .update ⟨← itemsAt? "target" body, ← itemsAt? "from" body,
      ← queriesAt? "subqueries" body⟩
  | "delete" =>
    return .delete ⟨← itemsAt? "targets" body, ← itemsAt? "using" body,
      ← queriesAt? "subqueries" body⟩
  | "create" =>
    let ⟨made, _⟩ ← body.part? "kind"
    return .create ⟨← CreatedKind.ofJson? made, ← optionalTextAt? "name" body,
      ← queriesAt? "queries" body⟩
  | "drop" => return .drop (← body.asString?)
  | "alter" => return .alter (← body.asString?)
  | "other" => return .other (← body.asString?)
  | _ => none
termination_by (sizeOf j, 0)

/-- A query from its JSON form. -/
def Query.ofJson? (j : Json) : Option Query := do
  let ctes ← (← j.listed? "ctes").mapM fun ⟨c, _⟩ => do
    let ⟨q, _⟩ ← c.part? "query"
    return (⟨← textAt? "name" c, ← Query.ofJson? q⟩ : Cte)
  let recursive ← match j.part? "recursive" with
    | none => pure false
    | some v => v.val.asBool?
  let ⟨body, _⟩ ← j.part? "body"
  return ⟨ctes, recursive, ← Body.ofJson? body, ← queriesAt? "subqueries" j⟩
termination_by (sizeOf j, 1)

/-- The queries under a key. -/
def queriesAt? (key : String) (j : Json) : Option (List Query) := do
  (← j.listed? key).mapM fun ⟨v, _⟩ => Query.ofJson? v
termination_by (sizeOf j, 0)

/-- The items under a key. -/
def itemsAt? (key : String) (j : Json) : Option (List Item) := do
  (← j.listed? key).mapM fun ⟨v, _⟩ => Item.ofJson? v
termination_by (sizeOf j, 0)

/-- A body from its JSON form. -/
def Body.ofJson? (j : Json) : Option Body := do
  match ← textAt? "type" j with
  | "select" =>
    return .select ⟨← itemsAt? "from" j, ← queriesAt? "subqueries" j, ← optionalTextAt? "into" j⟩
  | "set_operation" =>
    let ⟨left, _⟩ ← j.part? "left"
    let ⟨right, _⟩ ← j.part? "right"
    return .setOperation (← textAt? "op" j) (← Body.ofJson? left) (← Body.ofJson? right)
  | "nested" => return .nested (← Query.ofJson? j)
  | "values" => return .values (← queriesAt? "subqueries" j)
  | "table" => return .table (← textAt? "name" j)
  | "modify" => return .modify (← Statement.ofJson? j)
  | _ => none
termination_by (sizeOf j, 2)

/-- An item from its JSON form. -/
def Item.ofJson? (j : Json) : Option Item := do
  match ← textAt? "type" j with
  | "table" => return .table (← textAt? "name" j)
  | "subquery" =>
    let ⟨q, _⟩ ← j.part? "query"
    return .subquery (← Query.ofJson? q) (← optionalTextAt? "alias" j)
  | "function" => return .function (← textAt? "name" j) (← queriesAt? "subqueries" j)
  | "other" => return .other (← queriesAt? "subqueries" j)
  | _ => none
termination_by (sizeOf j, 1)

end

end Tree

end QueryGateway
