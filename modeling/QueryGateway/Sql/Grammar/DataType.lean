import QueryGateway.Sql.Grammar.Basic

/-! Data types, as casts and column definitions name them.

A word that the grammar knows decides what may follow it; any other name stands for a type
of its own, with modifiers that are not looked at. -/
namespace QueryGateway.Sql.Grammar

open Phrase Ast

/-! ### Sizes -/

/-- A size in brackets, or nothing. -/
def precision : Phrase Unit := unkept (parenIfAny size)

/-- A size in brackets, and a scale with its sign if there is one, or nothing. -/
def precisionAndScale : Phrase Unit :=
  unkept <| parenIfAny do
    size
    if ← hasMark .comma then signedSize

/-- A number of characters in brackets, or nothing. -/
def length : Phrase Unit :=
  unkept <| parenIfAny do
    if ← has .MAX then pure () else
      size
      skipAny [.CHARACTERS, .OCTETS]

/-- A number of bytes in brackets, or nothing. -/
def byteLength : Phrase Unit :=
  unkept <| parenIfAny do
    if ← has .MAX then pure () else size

/-- Numbers, words and strings in brackets, with commas among them, or nothing. -/
def modifiers : Phrase Unit :=
  unkept <| parenIfAny <| many <| token fun
    | .word _ | .number .. | .string .plain _ | .symbol .comma => some ()
    | _ => none

/-! ### Kinds of type -/

/-- What a type word takes after it. -/
inductive TypeShape where
  | bare
  | sized
  | integer
  | decimal (unsigned : Bool)
  | text
  | bytes
  | clock
  deriving DecidableEq, Repr

/-- The shapes of the types that have nothing but a size, if that. -/
def typeShape (k : Keyword) : Option TypeShape :=
  match k with
  | .BOOLEAN | .BOOL | .FLOAT4 | .FLOAT8 | .FLOAT32 | .FLOAT64 | .INT16 | .INT32 | .INT64
  | .INT128 | .INT256 | .HUGEINT | .UBIGINT | .UHUGEINT | .USMALLINT | .UTINYINT | .UINT8
  | .UINT16 | .UINT32 | .UINT64 | .UINT128 | .UINT256 | .TINYBLOB | .MEDIUMBLOB | .LONGBLOB
  | .TINYTEXT | .MEDIUMTEXT | .LONGTEXT | .TEXT | .BYTEA | .UUID | .DATE | .DATE32 | .JSON
  | .JSONB | .REGCLASS | .TRIGGER | .TSVECTOR | .TSQUERY | .POINT | .LINE | .LSEG | .BOX | .PATH
  | .POLYGON | .CIRCLE => some .bare
  | .CLOB | .BINARY | .BLOB | .BYTES | .STRING | .VARBIT | .DATETIME | .TIMESTAMPTZ
  | .TIMESTAMP_NTZ | .TIMETZ => some .sized
  | .TINYINT | .INT2 | .SMALLINT | .MEDIUMINT | .INT | .INT4 | .INT8 | .INTEGER | .BIGINT =>
    some .integer
  | .FLOAT | .DECIMAL | .DEC => some (.decimal true)
  | .NUMERIC | .BIGNUMERIC | .BIGDECIMAL => some (.decimal false)
  | .VARCHAR | .NVARCHAR => some .text
  | .VARBINARY => some .bytes
  | .TIMESTAMP | .TIME => some .clock
  | _ => none

/-- What a type of this shape has after its word. -/
def shapeRest : TypeShape → Phrase Unit
  | .bare => .give ()
  | .sized => precision
  | .integer => do
    precision
    skipAny [.UNSIGNED]
  | .decimal unsigned => do
    precisionAndScale
    if unsigned then skipAny [.UNSIGNED]
  | .text => length
  | .bytes => byteLength
  | .clock => do
    precision
    if ← has .WITH then expectAll [.TIME, .ZONE]
    else if ← has .WITHOUT then expectAll [.TIME, .ZONE]

/-- The units of an interval type, the larger one first. -/
def intervalUnits : Phrase Unit := do
  match ← hasAny [.YEAR, .DAY, .HOUR, .MINUTE, .MONTH, .SECOND] with
  | some .YEAR => aside .TO (anyOf [.MONTH])
  | some .DAY => aside .TO (anyOf [.HOUR, .MINUTE, .SECOND])
  | some .HOUR => aside .TO (anyOf [.MINUTE, .SECOND])
  | some .MINUTE => aside .TO (anyOf [.SECOND])
  | _ => return ()

/-- The labels of an enumeration, each with its number if it has one. -/
def labels : Phrase Unit :=
  unkept <| parenList do
    literalText
    if ← hasMark .equal then numeral

/-- The type inside angle brackets. The bracket that closes it may close the type around it
too. -/
def angled : Phrase TypeName := do
  mark (.operator "<")
  let inner ← call .dataType
  if inner.closesTwice then return ⟨.builtin, false, inner.parts⟩
  else if ← hasMark (.operator ">") then return ⟨.builtin, false, inner.parts⟩
  else
    mark (.operator ">>")
    return ⟨.builtin, true, inner.parts⟩

/-- What a type word that is like no other takes after it. -/
def singularType (k : Keyword) : Option (Phrase TypeName) :=
  let builtin (p : Phrase Unit) : Option (Phrase TypeName) :=
    some (do p; return ⟨.builtin, false, []⟩)
  match k with
  | .REAL => builtin (skipAny [.UNSIGNED])
  | .DOUBLE => builtin do
    if ← has .PRECISION then pure () else precisionAndScale
    skipAny [.UNSIGNED]
  | .CHARACTER | .CHAR => builtin do
    if ← has .VARYING then length
    else if ← hasAll [.LARGE, .OBJECT] then precision
    else length
  | .BIT => builtin do
    skipAny [.VARYING]
    precision
  | .DATETIME64 => builtin <| paren do
    size
    if ← hasMark .comma then literalText
  | .FIXEDSTRING => builtin (paren size)
  | .INTERVAL => some do
    intervalUnits
    precision
    return ⟨.interval, false, []⟩
  | .ENUM | .ENUM8 | .ENUM16 => builtin labels
  | .SET => builtin <| unkept <| parenList <| token fun
    | .string .plain _ => some ()
    | _ => none
  | .ARRAY => some angled
  | .SIGNED | .UNSIGNED => builtin (skipAny [.INTEGER])
  | .TABLE => some do
    let parts ← parenIfAny (list column)
    return ⟨.builtin, false, (parts.getD []).flatten⟩
  | _ => none

/-- A type known by its name alone. -/
def namedType : Phrase TypeName := do
  if ← ahead startsWord then
    let _ ← name
    modifiers
    return ⟨.custom, false, []⟩
  else .miss

/-- A type without the brackets that make arrays of it. -/
def scalarType : Phrase TypeName := do
  match ← ahead nextKeyword with
  | none => namedType
  | some k =>
    if ← hasAll [.ANY, .TYPE] then return ⟨.builtin, false, []⟩
    else match typeShape k, singularType k with
      | some shape, _ => do
        expect k
        shapeRest shape
        return ⟨.builtin, false, []⟩
      | none, some rest => do
        expect k
        rest
      | none, none => namedType

/-- A data type. Brackets after a type, with a size or without, make an array of it. -/
def wholeDataType : Phrase TypeName := do
  let scalar ← scalarType
  let arrays ← series do
    if ← ahead (opens .square) then
      opening .square
      let _ ← attempt size
      closing .square
      return some ()
    else return none
  return if arrays.isEmpty then scalar else { scalar with form := .builtin }

/-! ### Parts of a time -/

/-- The parts of a date and time, in the singular and the plural, that may follow the value
of an interval. -/
def isUnit (k : Keyword) : Bool :=
  [.YEAR, .YEARS, .MONTH, .MONTHS, .WEEK, .WEEKS, .DAY, .DAYS, .HOUR, .HOURS, .MINUTE, .MINUTES,
   .SECOND, .SECONDS, .CENTURY, .DECADE, .DOW, .DOY, .EPOCH, .ISODOW, .ISOYEAR, .JULIAN,
   .MICROSECOND, .MICROSECONDS, .MILLENIUM, .MILLENNIUM, .MILLISECOND, .MILLISECONDS, .NANOSECOND,
   .NANOSECONDS, .QUARTER, .TIMEZONE, .TIMEZONE_HOUR, .TIMEZONE_MINUTE].contains k

/-- The words after the value of an interval, if there are any. Seconds carry their own
precision; all other units may run to a smaller one. -/
def intervalQualifier : Phrase Unit := do
  let unit ← attempt (token fun t =>
    t.keyword.bind fun k => if isUnit k then some k else none)
  if unit = some .SECOND then
    unkept <| parenIfAny do
      size
      if ← hasMark .comma then size
  else
    precision
    if ← has .TO then
      let seconds ← ahead (spells .SECOND)
      let _ ← ident
      if seconds then precision

end QueryGateway.Sql.Grammar
