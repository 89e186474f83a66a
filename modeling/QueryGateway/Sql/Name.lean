/-! Identifiers and names: what they say, how they are written, and which relation a name
refers to. -/
namespace QueryGateway.Sql

/-- An identifier with the quote it was written in. -/
structure Ident where
  text : String
  quote : Option Char := none
  deriving DecidableEq, Repr

/-- A name, possibly qualified. -/
abbrev Name := List Ident

/-- The quote written twice wherever it stands alone in the text and no backslash comes
before it; `previous` is the last character that was looked at. -/
def escapeQuote (quote : Char) (previous : Char) : List Char → List Char
  | [] => []
  | [c] => if c = quote && previous ≠ '\\' then [c, c] else [c]
  | c :: d :: rest =>
    if c = quote then
      if previous = '\\' then c :: escapeQuote quote previous (d :: rest)
      else if d = quote then c :: d :: escapeQuote quote c rest
      else c :: c :: escapeQuote quote c (d :: rest)
    else c :: escapeQuote quote c (d :: rest)

/-- An identifier as it is written. -/
def Ident.render (i : Ident) : List Char :=
  match i.quote with
  | none => i.text.toList
  | some q => q :: escapeQuote q '\x00' i.text.toList ++ [q]

/-- A name as it is written, with dots between its parts. -/
def Name.render : Name → List Char
  | [] => []
  | [i] => i.render
  | i :: rest => i.render ++ '.' :: Name.render rest

/-- A rendered name without its quotes. -/
def stripQuotes (cs : List Char) : List Char := cs.filter fun c => c ≠ '"' && c ≠ '\x60'

/-- The name of the relation that a rendered name refers to. -/
def relationName (rendered : String) : String := String.ofList (stripQuotes rendered.toList)

/-- The relation that a name refers to. -/
def Name.relation (n : Name) : String := String.ofList (stripQuotes (Name.render n))

end QueryGateway.Sql
