import QueryGateway.Sql.Grammar.Option

/-! The columns of a table, and the constraints on them. -/
namespace QueryGateway.Sql.Grammar

open Phrase Ast

/-! ### Sequences -/

/-- Options of a sequence, each at most once and in this order. -/
def sequenceOptions : Phrase Unit := do
  if ← has .INCREMENT then
    skipAny [.BY]
    signedNumeral
  bound .MINVALUE
  bound .MAXVALUE
  if ← has .START then
    skipAny [.WITH]
    signedNumeral
  aside .CACHE signedNumeral
  if ← hasAll [.NO, .CYCLE] then pure () else skipAny [.CYCLE]
where
  /-- A bound, or the word that there is none, or nothing. -/
  bound (k : Keyword) : Phrase Unit := do
    if ← has k then signedNumeral else skipAll [.NO, k]

/-- That the database numbers a column, after the words, with the options of its
sequence. -/
def identity : Phrase Unit := unkept (parenIfAny sequenceOptions)

/-! ### Parts of constraints -/

/-- What a reference does when its target goes. -/
def referentialAction : Phrase Unit := do
  let given ← hasOneOf [[.RESTRICT], [.CASCADE], [.SET, .NULL], [.NO, .ACTION], [.SET, .DEFAULT]]
  if given then pure () else .miss

/-- When a constraint is checked, and whether it is; each at most once. -/
def checkTime : Phrase Unit :=
  unkept <| eachOnce
    [presence (hasOneOf [[.NOT, .DEFERRABLE], [.DEFERRABLE]]),
     presence (do
      if ← has .INITIALLY then
        let _ ← anyOf [.DEFERRED, .IMMEDIATE]
        return true
      else return false),
     presence (hasOneOf [[.NOT, .ENFORCED], [.ENFORCED]])]

/-- The table that a foreign key refers to, after the word. -/
def references : Phrase Unit := do
  let _ ← name
  columnsIfAny
  let _ ← eachOnce
    [presence (do
      if ← has .MATCH then
        let _ ← anyOf [.FULL, .PARTIAL, .SIMPLE]
        return true
      else return false),
     presence (action [.ON, .DELETE]), presence (action [.ON, .UPDATE])]
  checkTime
where
  /-- What the reference does after the words. -/
  action (ks : List Keyword) : Phrase Bool := do
    if ← hasAll ks then
      referentialAction
      return true
    else return false

/-- Whether nulls count as distinct, or nothing. -/
def nullsDistinct : Phrase Unit := do
  if ← has .NULLS then
    skipAny [.NOT]
    expect .DISTINCT

/-- One key of an index: an expression, the operators that it is sorted by, and its
order. -/
def indexKey : Phrase Expr := do
  let key ← expression
  if ← ahead (spellsAny [.ASC, .DESC, .NULLS, .WITH]) then pure ()
  else
    let _ ← attempt name
  sortOrder
  return key

/-- The keys of an index. -/
def indexKeys : Phrase (List Expr) := parenList indexKey

/-- The method of an index, or a remark on it; whether there is one. -/
def indexOption : Phrase Bool := do
  if ← has .USING then
    let _ ← ident
    return true
  else if ← has .COMMENT then
    literalText
    return true
  else return false

/-- Methods of an index and remarks on it. -/
def indexOptions : Phrase Unit := unkept (series (presence indexOption))

/-! ### Columns -/

/-- An expression that reads as it does outside of columns. -/
def freely (p : Phrase Expr) : Phrase (List Expr) := within .free (do return [← p])

/-- The value of a column where none is given. In brackets it is an operand alone. -/
def defaultValue : Phrase (List Expr) := do
  if ← ahead (opens .round) then freely operand
  else within .column (do return [← expression])

/-- What a column is made of, after the word: an expression over the others, or a number
that the database gives. Words that lead to neither are passed over. -/
def generated : Phrase (Option (List Expr)) := do
  let numbered ← hasOneOf [[.ALWAYS, .AS, .IDENTITY], [.BY, .DEFAULT, .AS, .IDENTITY]]
  if numbered then
    identity
    return some []
  if ← hasAll [.ALWAYS, .AS] then
    if ← ahead (opens .round) then
      let parts ← freely (paren expression)
      expect .STORED
      return some parts
  return none

/-- One option of a column. Some words that are options elsewhere are passed over on the way
to the next one. -/
def columnOption : Phrase (Option (List Expr)) := do
  if ← hasAll [.CHARACTER, .SET] then return ← nothingOf name
  if ← has .COLLATE then return ← nothingOf name
  if ← hasAll [.NOT, .NULL] then return some []
  if ← has .COMMENT then return ← nothingOf remark
  if ← has .NULL then return some []
  if ← has .DEFAULT then return some (← defaultValue)
  if ← hasOneOf [[.PRIMARY, .KEY], [.UNIQUE]] then return ← nothingOf checkTime
  if ← has .REFERENCES then return ← nothingOf references
  if ← has .CHECK then return some (← freely (paren expression))
  skipAny [.AUTO_INCREMENT]
  skipAny [.AUTOINCREMENT]
  skipAny [.ASC]
  skipAny [.DESC]
  skipAll [.ON, .UPDATE]
  if ← has .GENERATED then return ← generated
  skipAny [.AS]
  skipAny [.SRID]
  skipAny [.IDENTITY]
  if ← has .INVISIBLE then return some [] else return none
where
  /-- An option in which nothing is of interest. -/
  nothingOf {α} (p : Phrase α) : Phrase (Option (List Expr)) := do
    let _ ← p
    return some []

/-- Options of a column. -/
def columnOptions : Phrase (List Expr) := do return (← series columnOption).flatten

/-- A column: its name, its type, and its options, each with a name if it has one. -/
def columnDefinition : Phrase (List Expr) := do
  let _ ← ident
  let parts ← typeParts
  let given ← series do
    if ← has .CONSTRAINT then
      let _ ← ident
      match ← columnOption with
      | some found => return some found
      | none => .miss
    else columnOption
  return parts ++ given.flatten

/-! ### Constraints -/

/-- The keys of a constraint, with the name and the method of its index. -/
def keyConstraint : Phrase (List Expr) := do
  let _ ← attempt ident
  aside .USING ident
  let keys ← indexKeys
  indexOptions
  checkTime
  return keys

/-- A constraint of a table, if one comes next. -/
def tableConstraint : Phrase (Option (List Expr)) := do
  let named ← has .CONSTRAINT
  if named then unkept ident
  if ← has .UNIQUE then
    if ← ahead (spellsAny [.KEY, .INDEX]) then .miss
    else
      nullsDistinct
      return some (← keyConstraint)
  if ← has .PRIMARY then
    expect .KEY
    return some (← keyConstraint)
  if ← has .FOREIGN then
    expect .KEY
    let _ ← attempt ident
    columns
    expect .REFERENCES
    references
    return some []
  if ← has .CHECK then
    let condition ← paren expression
    if ← has .ENFORCED then pure () else skipAll [.NOT, .ENFORCED]
    return some [condition]
  if named then .miss else return none

/-! ### Elements of a table -/

/-- The expressions in the columns of a table and in its constraints, and whether it has
any. -/
structure Elements where
  present : Bool := false
  columns : List Expr := []
  constraints : List Expr := []

/-- All expressions in the elements of a table, columns first wherever they stand. -/
def Elements.expressions (e : Elements) : List Expr := e.columns ++ e.constraints

/-- The elements of two rows. -/
def Elements.append (a b : Elements) : Elements :=
  ⟨a.present || b.present, a.columns ++ b.columns, a.constraints ++ b.constraints⟩

/-- A column or a constraint. -/
def element : Phrase Elements := do
  match ← tableConstraint with
  | some parts => return ⟨true, [], parts⟩
  | none =>
    if ← ahead startsWord then return ⟨true, ← columnDefinition, []⟩ else .miss

/-- The columns and constraints of a table, or nothing. -/
def tableElements : Phrase Elements := do
  let found ← parenIfAny (listOrNone .round element)
  return (found.getD []).foldl Elements.append {}

end QueryGateway.Sql.Grammar
