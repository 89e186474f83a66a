import QueryGateway.Sql.Grammar.Option

/-! The statements that make types and operators, and change them. -/
namespace QueryGateway.Sql.Grammar

open Phrase Ast

/-! ### Types -/

/-- A value of an option, after the sign. -/
def assigned {α} (p : Phrase α) : Phrase α := do
  mark .equal
  p

/-- An option that names a function, an operator class, a collation or a type. -/
def nameOption (ks : List Keyword) : Phrase Unit := do
  let _ ← anyOf ks
  unkept (assigned name)

/-- An option of a range type. -/
def rangeOption : Phrase (List Expr) := do
  if ← has .SUBTYPE then assigned typeParts
  else
    nameOption [.SUBTYPE_OPCLASS, .COLLATION, .CANONICAL, .SUBTYPE_DIFF, .MULTIRANGE_TYPE_NAME]
    return []

/-- A member of a composite type. -/
def typeMember : Phrase (List Expr) := do
  let _ ← ident
  let parts ← typeParts
  aside .COLLATE name
  return parts

/-- An option of a type that functions read and write. -/
def baseOption : Phrase (List Expr) := do
  match ← anyOf
    [.INPUT, .OUTPUT, .RECEIVE, .SEND, .TYPMOD_IN, .TYPMOD_OUT, .ANALYZE, .SUBSCRIPT, .LIKE,
     .INTERNALLENGTH, .PASSEDBYVALUE, .ALIGNMENT, .STORAGE, .CATEGORY, .PREFERRED, .COLLATABLE,
     .DEFAULT, .ELEMENT, .DELIMITER] with
  | .INTERNALLENGTH => plain (assigned (do if ← has .VARIABLE then pure () else size))
  | .PASSEDBYVALUE => return []
  | .ALIGNMENT => plain (assigned (unkept (anyOf [.CHAR, .INT2, .INT4, .DOUBLE])))
  | .STORAGE => plain (assigned (unkept (anyOf [.PLAIN, .EXTERNAL, .EXTENDED, .MAIN])))
  | .CATEGORY => plain (assigned (do if (← text).isEmpty then .miss else pure ()))
  | .PREFERRED | .COLLATABLE => plain (assigned (skipAny [.TRUE, .FALSE]))
  | .DEFAULT => assigned (do return [← expression])
  | .ELEMENT => assigned typeParts
  | .DELIMITER => plain (assigned literalText)
  | _ => plain (unkept (assigned name))
where
  /-- An option in which nothing is of interest. -/
  plain (p : Phrase Unit) : Phrase (List Expr) := do
    p
    return []

/-- A new type. -/
def newType : Phrase Statement := do
  let _ ← name
  if ← has .AS then
    if ← has .ENUM then
      let _ ← parenListOrNone ident
      return .createOther "TYPE" []
    else if ← has .RANGE then made (parenListOrNone rangeOption)
    else made (parenListOrNone typeMember)
  else if ← ahead (opens .round) then made (parenListOrNone baseOption)
  else return .createOther "TYPE" []
where
  /-- A type with what is told of it. -/
  made (p : Phrase (List (List Expr))) : Phrase Statement := do
    return .createOther "TYPE" (← p).flatten

/-- A change to a type. -/
def typeChange : Phrase Unit := do
  let _ ← name
  if ← hasAll [.ADD, .VALUE] then
    let _ ← ifNotExists
    let _ ← ident
    if (← hasAny [.BEFORE, .AFTER]).isSome then unkept ident
  else
    expect .RENAME
    if ← has .VALUE then unkept ident
    expect .TO
    let _ ← ident

/-! ### Operators -/

/-- The name of an operator: tokens of any kind with dots between them. -/
def operatorName : Phrase Unit := unkept (separated (hasMark .dot) anything)

/-- Another operator, alone or in brackets behind the word. -/
def relatedOperator : Phrase Unit := do
  if ← has .OPERATOR then paren operatorName else operatorName

/-- An option of a new operator: what it is about, and the expressions in it. -/
def operatorOption : Phrase (Keyword × List Expr) := do
  let about ← anyOf
    [.FUNCTION, .PROCEDURE, .LEFTARG, .RIGHTARG, .COMMUTATOR, .NEGATOR, .RESTRICT, .JOIN, .HASHES,
     .MERGES]
  match about with
  | .FUNCTION | .PROCEDURE => do
    let _ ← assigned name
    return (.FUNCTION, [])
  | .RESTRICT | .JOIN => do
    let _ ← assigned name
    return (about, [])
  | .LEFTARG | .RIGHTARG => return (about, ← assigned typeParts)
  | .COMMUTATOR | .NEGATOR => do
    assigned relatedOperator
    return (about, [])
  | _ => return (about, [])

/-- A new operator. Each option is told once, and one of them is its function. -/
def newOperator : Phrase Statement := do
  operatorName
  let given ← parenList operatorOption
  let told := given.map (·.1)
  if told.Nodup && told.contains .FUNCTION then
    return .createOther "OPERATOR" (given.flatMap (·.2))
  else .miss

/-- A new family of operators. -/
def newOperatorFamily : Phrase Statement := do
  let _ ← name
  expect .USING
  let _ ← ident
  return .createOther "OPERATOR" []

/-- Two types in brackets, of the operands of an operator. -/
def operandTypes : Phrase (List Expr) :=
  paren do
    let left ← typeParts
    mark .comma
    return left ++ (← typeParts)

/-- The types of a function's arguments. A comma may stand behind the last one. -/
def argumentTypes : Phrase (List Expr) :=
  paren do
    let types ← series do
      if ← ahead (closes .round) then return none
      let parts ← typeParts
      if ← hasMark .comma then return some parts
      else if ← ahead (closes .round) then return some parts
      else .miss
    return types.flatten

/-- One member of an operator class, if one comes next. -/
def classMember : Phrase (Option (List Expr)) := do
  if ← has .OPERATOR then
    size
    operatorName
    let types ← if ← ahead (opens .round) then operandTypes else pure []
    if ← has .FOR then
      if ← has .SEARCH then pure ()
      else
        expectAll [.ORDER, .BY]
        let _ ← name
    return some types
  else if ← has .FUNCTION then
    size
    let types ← parenIfAny (list typeParts)
    let _ ← name
    let given ← if ← ahead (opens .round) then argumentTypes else pure []
    return some ((types.getD []).flatten ++ given)
  else if ← has .STORAGE then return some (← typeParts)
  else return none

/-- A new class of operators. -/
def newOperatorClass : Phrase Statement := do
  let _ ← name
  skipAny [.DEFAULT]
  expectAll [.FOR, .TYPE]
  let parts ← typeParts
  expect .USING
  let _ ← ident
  aside .FAMILY name
  expect .AS
  let members ← loop (([] : List Expr), true) fun (found, due) => do
    if due then
      match ← classMember with
      | some types => return some (found ++ types, ← hasMark .comma)
      | none => return none
    else return none
  return .createOther "OPERATOR" (parts ++ members.1)

/-- The types of an operator's operands, either of which may be missing. -/
def operandsIfAny : Phrase (List Expr) :=
  paren do
    let left ← operandIfAny
    mark .comma
    return left ++ (← operandIfAny)
where
  /-- The type of an operand, or the word that there is none. -/
  operandIfAny : Phrase (List Expr) := do
    if ← has .NONE then return [] else typeParts

/-- An option of an operator that can be changed. -/
def changedOption : Phrase Unit := do
  match ← anyOf [.RESTRICT, .JOIN, .COMMUTATOR, .NEGATOR, .HASHES, .MERGES] with
  | .RESTRICT | .JOIN => assigned (do if ← has .NONE then pure () else unkept name)
  | .COMMUTATOR | .NEGATOR => assigned operatorName
  | _ => pure ()

/-- A change to an operator. -/
def operatorChange : Phrase (List Expr) := do
  operatorName
  let types ← operandsIfAny
  if ← hasAll [.OWNER, .TO] then unkept ident
  else
    expect .SET
    if ← has .SCHEMA then unkept name else unkept (parenList changedOption)
  return types

end QueryGateway.Sql.Grammar
