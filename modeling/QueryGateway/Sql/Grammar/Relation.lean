import QueryGateway.Sql.Grammar.Column

/-! The statements that make tables, views and indexes. -/
namespace QueryGateway.Sql.Grammar

open Phrase Ast

/-! ### What stands before the object -/

/-- The words before an object: whether it replaces or changes another one of its name, how
long it lives, and what a view says of itself. -/
structure Prelude where
  replaces : Bool
  alters : Bool
  reach : Option String
  transient : Bool
  temporary : Bool
  ofView : List String

/-- A word if `given`. -/
def wordIf (given : Bool) (text : String) : List String := if given then [text] else []

/-- The words that say that an object replaces another one. -/
def Prelude.replacing (p : Prelude) : List String :=
  if p.replaces then ["OR", "REPLACE"] else []

/-- What stands before the object word of a table that is kept in the database. -/
def Prelude.ofTable (p : Prelude) : List String :=
  p.replacing ++ p.reach.toList ++ wordIf p.temporary "TEMPORARY"
    ++ wordIf p.transient "TRANSIENT"

/-- The way a view is worked out, whose it is, and whose rights it has. -/
def viewProperties : Phrase (List String) := do
  let way ←
    if ← has .ALGORITHM then do
      mark .equal
      pure ["ALGORITHM", "=", ← oneOf [.UNDEFINED, .MERGE, .TEMPTABLE]]
    else pure []
  let owner ←
    if ← has .DEFINER then do
      mark .equal
      pure ["DEFINER", "=", String.ofList (Name.render (← name))]
    else pure []
  let rights ←
    if ← hasAll [.SQL, .SECURITY] then do
      pure ["SQL", "SECURITY", ← oneOf [.DEFINER, .INVOKER]]
    else pure []
  return way ++ owner ++ rights
where
  /-- One of the words, in capitals. -/
  oneOf (ks : List Keyword) : Phrase String :=
    token fun
      | .word w =>
        if (w.keyword.map ks.contains).getD false then
          some (String.ofList (keywordCase w.text.toList))
        else none
      | _ => none

/-- The words between `CREATE` and what it creates. -/
def creationPrelude : Phrase Prelude := do
  let replaces ← hasAll [.OR, .REPLACE]
  let alters ← hasAll [.OR, .ALTER]
  let isLocal ← has .LOCAL
  let isGlobal ← has .GLOBAL
  let transient ← has .TRANSIENT
  let temporary := (← hasAny [.TEMP, .TEMPORARY]).isSome
  let reach := if isGlobal then some "GLOBAL" else if isLocal then some "LOCAL" else none
  return ⟨replaces, alters, reach, transient, temporary, ← viewProperties⟩

/-- The first of the clauses that are there. -/
def firstClause (clauses : List (Bool × String)) : String :=
  ((clauses.find? (·.1)).map (·.2)).getD ""

/-! ### Where a table's rows are kept -/

/-- The form in which a table's rows are kept: its rows, the options of their writer, its
files, and their place. -/
structure Storage where
  rows : Bool := false
  properties : List Expr := []
  files : Option (List Expr) := none
  placed : Bool := false

/-- The expressions in a form of storage. -/
def Storage.expressions (s : Storage) : List Expr := s.properties ++ s.files.getD []

/-- What ends the fields and the rows of a file. A word that leads to nothing ends the
list. -/
def delimiters : Phrase Unit :=
  loop () fun _ => do
    match ← hasAny [.FIELDS, .COLLECTION, .MAP, .LINES, .NULL] with
    | some .FIELDS =>
      if ← hasAll [.TERMINATED, .BY] then
        let _ ← ident
        asideAll [.ESCAPED, .BY] ident
        return some ()
      else return none
    | some .COLLECTION => sign [.ITEMS, .TERMINATED, .BY]
    | some .MAP => sign [.KEYS, .TERMINATED, .BY]
    | some .LINES => sign [.TERMINATED, .BY]
    | some _ => sign [.DEFINED, .AS]
    | none => return none
where
  /-- The sign after the words. -/
  sign (ks : List Keyword) : Phrase (Option Unit) := do
    if ← hasAll ks then
      let _ ← ident
      return some ()
    else return none

/-- The form of the rows of a file, after the first word. -/
def rowFormat : Phrase Unit := do
  expect .FORMAT
  match ← hasAny [.SERDE, .DELIMITED] with
  | some .SERDE => literalText
  | _ => delimiters

/-- The files of a table, after the words. -/
def files : Phrase (List Expr) := do
  if ← has .INPUTFORMAT then
    let reader ← expression
    expect .OUTPUTFORMAT
    return [reader, ← expression]
  else
    fileFormat
    return []

/-- The form in which a table's rows are kept. -/
def storage : Phrase Storage :=
  loop ({} : Storage) fun s => do
    if ← has .ROW then
      rowFormat
      return some { s with rows := true }
    else if ← has .STORED then
      expect .AS
      return some { s with files := some (← files) }
    else if ← has .LOCATION then
      literalText
      return some { s with placed := true }
    else
      let properties ← optionsAfter [.WITH, .SERDEPROPERTIES]
      if properties.isEmpty then return none else return some { s with properties := properties }

/-- The columns by whose values a table is cut into parts, if it is. -/
def partitionColumns : Phrase (Option (List Expr)) := do
  if ← hasAll [.PARTITIONED, .BY] then return some (← parenList column).flatten else return none

/-! ### Plain options of a table -/

/-- The options of a table that take a constant or a name. -/
def valueOptions : List (List Keyword) :=
  [[.DEFAULT, .CHARSET], [.CHARSET], [.DEFAULT, .CHARACTER, .SET], [.CHARACTER, .SET],
   [.DEFAULT, .COLLATE], [.COLLATE], [.DATA, .DIRECTORY], [.INDEX, .DIRECTORY],
   [.KEY_BLOCK_SIZE], [.ROW_FORMAT], [.PACK_KEYS], [.STATS_AUTO_RECALC], [.STATS_PERSISTENT],
   [.STATS_SAMPLE_PAGES], [.DELAY_KEY_WRITE], [.COMPRESSION], [.ENCRYPTION], [.MAX_ROWS],
   [.MIN_ROWS], [.AUTOEXTEND_SIZE], [.AVG_ROW_LENGTH], [.CHECKSUM], [.CONNECTION],
   [.ENGINE_ATTRIBUTE], [.PASSWORD], [.SECONDARY_ENGINE_ATTRIBUTE], [.INSERT_METHOD],
   [.AUTO_INCREMENT]]

/-- The kind of device that a table is kept on. -/
def device : Phrase Unit :=
  token fun
    | .word w =>
      if ["DISK", "MEMORY"].contains (String.ofList (keywordCase w.text.toList)) then some ()
      else none
    | _ => none

/-- An option of a table without brackets; whether there is one. -/
def plainOption : Phrase Bool := do
  if ← hasAll [.START, .TRANSACTION] then return true
  else if ← has .COMMENT then
    optional
    token fun
      | .string .plain _ => some ()
      | _ => none
    return true
  else if ← has .ENGINE then
    optional
    let _ ← word
    let _ ← parenIfAny idents
    return true
  else if ← has .TABLESPACE then
    optional
    let _ ← ident
    if ← has .STORAGE then
      optional
      device
    return true
  else if ← has .UNION then
    optional
    let _ ← parenListOrNone ident
    return true
  else if ← hasOneOf valueOptions then
    optional
    if (← attempt constant).isNone then unkept ident
    return true
  else return false
where
  /-- The sign before a value, or nothing. -/
  optional : Phrase Unit := unkept (hasMark .equal)

/-- Options of a table without brackets, with or without commas between them: the first word
of the first of them. -/
def plainOptions : Phrase (Option String) := do
  let first ← ahead fun ls =>
    match next? ls with
    | some (.word w) => some (String.ofList (keywordCase w.text.toList))
    | _ => none
  let found ← series (presence (do
    let found ← plainOption
    if found then
      let _ ← hasMark .comma
    return found))
  return if found.isEmpty then none else first

/-! ### Tables -/

/-- The options of a table in brackets: the word before them, and what is in them. The later
of two kinds counts. -/
def tableProperties : Phrase (Option String × List Expr) := do
  let written ← withOptions
  let properties ← after .TBLPROPERTIES options
  if !properties.isEmpty then return (some "TBLPROPERTIES", properties)
  else if !written.isEmpty then return (some "WITH", written)
  else return (none, [])

/-- What the rows of a table are sorted by. -/
def tableOrder : Phrase (Option (List Expr)) := do
  if ← hasAll [.ORDER, .BY] then
    if ← ahead (opens .round) then return some (← parenListOrNone expression)
    else return some [← expression]
  else return none

/-- What becomes of a table's rows at the end of a transaction; whether that is told. -/
def onCommit : Phrase Bool := do
  if ← hasAll [.ON, .COMMIT] then
    if ← hasOneOf [[.DELETE, .ROWS], [.PRESERVE, .ROWS], [.DROP]] then return true else .miss
  else return false

/-- A new table. -/
def newTable (prelude : Prelude) : Phrase Statement := do
  let guarded ← ifNotExists
  let n ← name
  let clustered ← onCluster
  let like := (← hasAny [.LIKE, .ILIKE]).isSome
  if like then unkept name
  let clone ← if ← has .CLONE then nameAtAll else pure false
  let elements ← tableElements
  let withoutRowid ← hasAll [.WITHOUT, .ROWID]
  let parted ← partitionColumns
  let kept ← storage
  let inherits ← has .INHERITS
  if inherits then unkept (parenList name)
  let (propertyWord, properties) ← tableProperties
  let partition ← afterAll [.PARTITION, .BY] (do return [← expression])
  let optionWord ← if propertyWord.isSome then pure propertyWord else plainOptions
  let order ← tableOrder
  let committed ← onCommit
  let strict ← has .STRICT
  let source ← if ← has .AS then pure [← query] else pure []
  let made := like || clone || !source.isEmpty
  let next := firstClause
    [(clustered, "ON"), (elements.present || !made, "("), (withoutRowid, "WITHOUT"),
     (like, "LIKE"), (clone, "CLONE"), (parted.isSome, "PARTITIONED"), (kept.rows, "ROW"),
     (kept.files.isSome, "STORED"), (!kept.properties.isEmpty, "WITH"),
     (kept.placed, "LOCATION"), (optionWord.isSome, optionWord.getD ""),
     (order.isSome, "ORDER"), (inherits, "INHERITS"), (!partition.isEmpty, "PARTITION"),
     (committed, "ON"), (strict, "STRICT"), (true, "AS")]
  return .createTable ⟨prelude.ofTable, "TABLE", guarded, n, next⟩
    (elements.expressions ++ parted.getD [] ++ kept.expressions ++ properties
      ++ source.map .query ++ order.getD [] ++ partition)

/-- A table whose rows are kept outside of the database. -/
def newExternalTable (prelude : Prelude) : Phrase Statement := do
  expect .TABLE
  let guarded ← ifNotExists
  let n ← name
  let elements ← tableElements
  let parted ← partitionColumns
  let kept ← storage
  let properties ← after .TBLPROPERTIES options
  return .createTable ⟨prelude.replacing ++ ["EXTERNAL"], "TABLE", guarded, n, "("⟩
    (elements.expressions ++ parted.getD [] ++ kept.expressions ++ properties)

/-- A table that a module keeps. -/
def newVirtualTable : Phrase Statement := do
  let _ ← ifNotExists
  let _ ← name
  expect .USING
  let _ ← ident
  columnsIfAny
  return .createOther "VIRTUAL" []

/-! ### Views -/

/-- A column of a view with its options. -/
def viewColumn : Phrase (List Expr) := do
  let _ ← ident
  columnOptions

/-- Whether a view comes next. -/
def startsView (ls : List Lexeme) : Bool :=
  spellsAny [.VIEW, .MATERIALIZED] ls || spellsAll [.SECURE, .VIEW] ls
    || spellsAll [.SECURE, .MATERIALIZED, .VIEW] ls

/-- A new view. `IF NOT EXISTS` may stand on either side of its name. -/
def newView (prelude : Prelude) : Phrase Statement := do
  let secure ← has .SECURE
  let materialized ← has .MATERIALIZED
  expect .VIEW
  let guarded ← ifNotExists
  let n ← name
  let late ← if guarded then pure false else ifNotExists
  let granted ← hasAll [.COPY, .GRANTS]
  let columns := (← parenIfAny (listOrNone .round viewColumn)).getD []
  let written ← withOptions
  let clustered ←
    if ← has .CLUSTER then do
      expect .BY
      pure (← parenIfAny idents).isSome
    else pure false
  expect .AS
  let q ← query
  let next := (if late then "IF NOT EXISTS " else "") ++ firstClause
    [(granted, "COPY"), (!columns.isEmpty, "("), (!written.isEmpty, "WITH"),
     (clustered, "CLUSTER"), (true, "AS")]
  let modifiers := (if prelude.alters then ["OR", "ALTER"] else []) ++ prelude.replacing
    ++ prelude.ofView ++ wordIf secure "SECURE" ++ wordIf materialized "MATERIALIZED"
    ++ wordIf prelude.temporary "TEMPORARY"
  return .createView ⟨modifiers, "VIEW", guarded, n, next⟩
    (columns.flatten ++ .query q :: written)

/-! ### Indexes -/

/-- How a change is carried out; whether that is told. -/
def changeMethod : Phrase Bool := do
  if ← has .ALGORITHM then
    let _ ← hasMark .equal
    let _ ← anyOf [.DEFAULT, .INSTANT, .INPLACE, .COPY]
    return true
  else if ← has .LOCK then
    let _ ← hasMark .equal
    let _ ← anyOf [.DEFAULT, .EXCLUSIVE, .NONE, .SHARED]
    return true
  else return false

/-- A new index. -/
def newIndex : Phrase Statement := do
  skipAny [.CONCURRENTLY]
  let guarded ← ifNotExists
  let unnamed ← if guarded then pure false else has .ON
  if !unnamed then
    let _ ← name
    aside .USING ident
    expect .ON
  let _ ← name
  aside .USING ident
  let keys ← indexKeys
  if ← has .INCLUDE then columns
  nullsDistinct
  let parameters ← after .WITH (parenList expression)
  let condition ← whereClause
  indexOptions
  let _ ← series (presence changeMethod)
  return .createOther "INDEX" (keys ++ parameters ++ condition)

end QueryGateway.Sql.Grammar
