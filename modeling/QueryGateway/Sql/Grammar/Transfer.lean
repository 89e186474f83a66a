import QueryGateway.Sql.Grammar.Option
import QueryGateway.Text.Blank

/-! Statements that move rows between tables and files. Each is read after its first
word. -/
namespace QueryGateway.Sql.Grammar

open Phrase Ast

/-! ### Options -/

/-- A copy's option in brackets. -/
def copyOption : Phrase Unit := do
  match ← anyOf
    [.FORMAT, .FREEZE, .DELIMITER, .NULL, .HEADER, .QUOTE, .ESCAPE, .FORCE_QUOTE, .FORCE_NOT_NULL,
     .FORCE_NULL, .ENCODING] with
  | .FORMAT => unkept ident
  | .FREEZE | .HEADER => skipAny [.TRUE, .FALSE]
  | .DELIMITER | .QUOTE | .ESCAPE => character
  | .NULL | .ENCODING => literalText
  | _ => columns

/-- What a file with commas between its values is like. -/
def commaOption : Phrase Unit := do
  match ← anyOf [.HEADER, .QUOTE, .ESCAPE, .FORCE] with
  | .HEADER => pure ()
  | .FORCE => do
    if ← hasAll [.NOT, .NULL] then idents
    else
      expect .QUOTE
      idents
  | _ => do
    skipAny [.AS]
    character

/-- A text in plain quotes, or nothing. -/
def textIfAny : Phrase Unit := do
  skipAny [.AS]
  if ← ahead startsString then literalText

/-- The size of a file. -/
def fileSize : Phrase Unit := do
  skipAny [.AS]
  numeral
  skipAny [.MB, .GB]

/-- A role of the place where files are kept, after the word. -/
def accessRole : Phrase Unit := do
  if ← has .DEFAULT then pure () else literalText

/-- The options of a file that are mere words. -/
def plainFileOptions : List Keyword :=
  [.ACCEPTANYDATE, .ADDQUOTES, .ALLOWOVERWRITE, .BINARY, .BLANKSASNULL, .BZIP2, .CLEANPATH,
   .EMPTYASNULL, .ESCAPE, .GZIP, .HEADER, .PARQUET, .REMOVEQUOTES, .TRUNCATECOLUMNS, .ZSTD]

/-- An option of a file without brackets. -/
def fileOption : Phrase Unit := do
  if ← has .FORMAT then skipAny [.AS]
  if (← hasAny plainFileOptions).isSome then pure ()
  else
    match ← anyOf
      [.ACCEPTINVCHARS, .COMPUPDATE, .CREDENTIALS, .CSV, .DATEFORMAT, .DELIMITER, .ENCRYPTED,
       .EXTENSION, .FIXEDWIDTH, .IAM_ROLE, .IGNOREHEADER, .JSON, .MANIFEST, .MAXFILESIZE, .NULL,
       .PARALLEL, .PARTITION, .REGION, .ROWGROUPSIZE, .STATUPDATE, .TIMEFORMAT] with
    | .ACCEPTINVCHARS | .DATEFORMAT | .JSON | .TIMEFORMAT => textIfAny
    | .COMPUPDATE => do
      skipAny [.PRESET]
      toggle
    | .PARALLEL | .STATUPDATE => toggle
    | .CREDENTIALS | .EXTENSION | .FIXEDWIDTH => literalText
    | .CSV => unkept (many commaOption)
    | .DELIMITER => do
      skipAny [.AS]
      character
    | .ENCRYPTED => skipAny [.AUTO]
    | .IAM_ROLE => accessRole
    | .IGNOREHEADER => do
      skipAny [.AS]
      size
    | .MANIFEST => skipAny [.VERBOSE]
    | .MAXFILESIZE | .ROWGROUPSIZE => fileSize
    | .PARTITION => do
      expect .BY
      columns
      skipAny [.INCLUDE]
    | _ => do
      skipAny [.AS]
      literalText
where
  /-- Whether something is on, or nothing. -/
  toggle : Phrase Unit := skipAny [.TRUE, .FALSE, .ON, .OFF]

/-! ### Copies -/

/-- The backslash. -/
def backslash : Phrase Unit :=
  token fun t => if t = .stray '\\' then some () else none

/-- Rows among the text of the statements, up to a backslash and a dot or the end of the
text. Whatever else stands behind a backslash belongs to the rows. -/
def inlineRows : Phrase Unit :=
  loop () fun _ => do
    if ← ahead List.isEmpty then return none
    else if (← attempt backslash).isSome then
      if ← hasMark .dot then return none
      else
        skip
        return some ()
    else
      anything
      return some ()

/-- Rows moved between a table and a file. -/
def copy : Phrase (List Expr) := do
  let source ←
    if ← ahead (opens .round) then pure (some (← paren query))
    else do
      let _ ← name
      columnsIfAny
      pure none
  let direction ← anyOf [.FROM, .TO]
  if source.isSome && direction = .FROM then .miss
  else
    let inlined ← has .STDIN
    if !inlined then
      if ← has .STDOUT then pure ()
      else
        skipAny [.PROGRAM]
        literalText
    skipAny [.WITH]
    let _ ← parenIfAny (list copyOption)
    let _ ← many fileOption
    if inlined then
      mark .semicolon
      inlineRows
    return source.toList.map .query

/-! ### Rows written to files -/

mutual

/-- The word that the printed form of a query starts with. -/
def leadingWord : Query → List Char
  | ⟨[], _, b, _⟩ => bodyWord b
  | ⟨_ :: _, _, _, _⟩ => "WITH".toList

/-- The word that the printed form of a query body starts with. -/
def bodyWord : Body → List Char
  | .select _ => "SELECT".toList
  | .nested q => '(' :: leadingWord q
  | .setOperation _ left _ => bodyWord left
  | .values _ => "VALUES".toList
  | .table _ => "TABLE".toList
  | .insert _ => "INSERT".toList
  | .update _ => "UPDATE".toList
  | .delete => "DELETE".toList
  | .merge => "MERGE".toList
  | .command keyword _ => keyword.toList

end

/-- Rows written to files, with the word that the printed form starts with: no blank stands
behind its bracket. -/
def unload : Phrase Statement := do
  let (parts, inside) ← paren do
    if ← ahead startsString then
      let source ← text
      let first := source.toList.takeWhile fun c => !Text.isBlank c
      pure ([], '\'' :: first ++ if first.length = source.length then ['\'', ')'] else [])
    else
      let q ← query
      pure ([.query q], leadingWord q)
  expect .TO
  let _ ← ident
  aside .IAM_ROLE accessRole
  let written ← withOptions
  let _ ← many fileOption
  return .other (String.ofList ("UNLOAD(".toList ++ inside.map Char.toUpper)) (parts ++ written)

/-- The rows of a query written to files elsewhere. -/
def dataExport : Phrase (List Expr) := do
  expect .DATA
  asideAll [.WITH, .CONNECTION] name
  expect .OPTIONS
  let given ← parenList option
  expect .AS
  return given ++ [.query (← query)]

end QueryGateway.Sql.Grammar
